import LorawanRouting.Proofs.Readers
import LorawanRouting.Toml.Reader
import LorawanRouting.Toml.Writer

/-!
Strings as TOML text. Whichever of the four forms a text is written in, it reads back as that text
and nothing of what follows is taken.
-/

namespace LorawanRouting.Toml

open Reader

theorem scalar?_code : ∀ n < 128,
    scalar? ['0', '0', Hex.upperDigit (n / 16), Hex.upperDigit (n % 16)] = some (Char.ofNat n) := by
  decide

theorem isHexDigit_upperDigit : ∀ d < 16, isHexDigit (Hex.upperDigit d) = true := by decide

theorem escaped_writeCode {c : Char} (hc : c.toNat < 128) (t : List Char) :
    escaped (writeCode c ++ t) = some (c, t) := by
  have hscalar := scalar?_code c.toNat hc
  have hhigh := isHexDigit_upperDigit (c.toNat / 16) (by omega)
  have hlow := isHexDigit_upperDigit (c.toNat % 16) (by omega)
  have hzero : isHexDigit '0' = true := rfl
  rw [Char.ofNat_toNat] at hscalar
  simp [writeCode, escaped, exactly, hscalar, hhigh, hlow, hzero]

/-- How a character may be written in a basic string: as it is, or by an escape that reads back. -/
inductive Escape (c : Char) : List Char → Prop
  | plain (hplain : isPlain c = true) (hquote : c ≠ '"') (hslash : c ≠ '\\') : Escape c [c]
  | code {e : Char} {w : List Char} (hspace : isSpace e = false) (hfeed : e ≠ '\n')
      (hreturn : e ≠ '\r') (hread : ∀ t, escaped ('\\' :: e :: (w ++ t)) = some (c, t)) :
      Escape c ('\\' :: e :: w)

theorem escape_writeEscaped (c : Char) : Escape c (writeEscaped c) := by
  have hsimple : ∀ e : Char, isSpace e = false → e ≠ '\n' → e ≠ '\r' →
      (∀ t, escaped ('\\' :: e :: t) = some (c, t)) → Escape c ['\\', e] :=
    fun e hspace hfeed hreturn hread => .code (w := []) hspace hfeed hreturn hread
  rw [writeEscaped]
  split_ifs with hslash hb ht hn hf hr hquote hcode
  · subst hslash
    exact hsimple '\\' rfl (by decide) (by decide) fun _ => rfl
  · subst hb
    exact hsimple 'b' rfl (by decide) (by decide) fun _ => rfl
  · subst ht
    exact hsimple 't' rfl (by decide) (by decide) fun _ => rfl
  · subst hn
    exact hsimple 'n' rfl (by decide) (by decide) fun _ => rfl
  · subst hf
    exact hsimple 'f' rfl (by decide) (by decide) fun _ => rfl
  · subst hr
    exact hsimple 'r' rfl (by decide) (by decide) fun _ => rfl
  · subst hquote
    exact hsimple '"' rfl (by decide) (by decide) fun _ => rfl
  · refine .code (e := 'u') rfl (by decide) (by decide) (escaped_writeCode ?_)
    simp at hcode
    omega
  · refine .plain ?_ hquote hslash
    simp at hcode
    simp [isPlain, hcode]

theorem Escape.ne_nil {c : Char} {w : List Char} (h : Escape c w) : w ≠ [] := by
  cases h <;> simp

theorem Escape.basicChar {c : Char} {w : List Char} (h : Escape c w) (t : List Char) :
    basicChar (w ++ t) = some (c, t) := by
  cases h with
  | plain hplain hquote hslash => simp_all [Toml.basicChar]
  | code _ _ _ hread => exact hread t

theorem Escape.basicLinesPiece {c : Char} {w : List Char} (h : Escape c w) (t : List Char) :
    basicLinesPiece (w ++ t) = some ([c], t) := by
  cases h with
  | plain hplain hquote hslash => simp_all [Toml.basicLinesPiece]
  | @code e w hspace hfeed hreturn hread =>
    have hjoined : joinedLines ('\\' :: e :: (w ++ t)) = none := by
      simp [joinedLines, skipSpace, hspace, newline, hfeed, hreturn]
    simp [Toml.basicLinesPiece, hjoined, hread]

theorem Escape.head_ne {c : Char} {w : List Char} (h : Escape c w) (t : List Char) :
    ∀ d ∈ (w ++ t).head?, d ≠ '"' ∧ d ≠ '\n' ∧ d ≠ '\r' := by
  intro d hd
  cases h with
  | plain hplain hquote =>
    obtain rfl : c = d := Option.some.inj hd
    refine ⟨hquote, ?_, ?_⟩
    · rintro rfl
      cases hplain
    · rintro rfl
      cases hplain
  | code =>
    obtain rfl : '\\' = d := Option.some.inj hd
    decide

theorem basicString_written (cs t : List Char) :
    basicString ('"' :: (cs.flatMap writeEscaped ++ '"' :: t)) = some (cs, t) := by
  have hchars : many basicChar (cs.flatMap writeEscaped ++ '"' :: t) = (cs.map id, '"' :: t) :=
    many_flatMap (fun c _ => (escape_writeEscaped c).basicChar)
      (fun c _ => (escape_writeEscaped c).ne_nil) rfl
  simp [basicString, char_self, hchars]

theorem literalString_written {cs : List Char} (hcs : ∀ c ∈ cs, c ≠ '\'' ∧ isPlain c = true)
    (t : List Char) : literalString ('\'' :: (cs ++ '\'' :: t)) = some (cs, t) := by
  have hchars : (cs ++ '\'' :: t).takeWhile (fun c => c ≠ '\'' && isPlain c) = cs :=
    takeWhile_append (by simpa using hcs) (by simp)
  simp only [literalString, char_self, Option.bind_eq_bind, Option.bind_some, hchars,
    List.drop_left]
  rfl

theorem newline_eq_none {s : List Char} (h : ∀ c ∈ s.head?, c ≠ '\n' ∧ c ≠ '\r') :
    newline s = none := by
  cases s with
  | nil => rfl
  | cons c s =>
    obtain ⟨hfeed, hreturn⟩ := h c (by simp)
    simp [newline, hfeed, hreturn]

def inside (mark : Char) (piece : Reader (List Char)) : Reader (List Char) := fun s => do
  let (pieces, s) := many piece s
  let (last, s) ← closingMarks mark s
  return (pieces.flatten ++ last, s)

theorem linesString_eq (mark : Char) (piece : Reader (List Char)) (s : List Char) :
    linesString mark piece (mark :: mark :: mark :: s) =
      inside mark piece (optional newline s).2 := by
  simp [linesString, word, inside]

section Marks

variable {mark : Char} {piece : Reader (List Char)} {q : Nat} {s t ds rest : List Char}

theorem takeWhile_marks (q : Nat) (ht : ∀ c ∈ t.head?, c ≠ mark) :
    (List.replicate q mark ++ t).takeWhile (· = mark) = List.replicate q mark :=
  takeWhile_append (fun _ hc => decide_eq_true (List.eq_of_mem_replicate hc))
    fun c hc => decide_eq_false (ht c hc)

theorem innerMarks_eq_some (hq : 0 < q) (hq' : q < 3) (ht : ∀ c ∈ t.head?, c ≠ mark) :
    innerMarks mark (List.replicate q mark ++ t) = some (List.replicate q mark, t) := by
  simp [innerMarks, takeWhile_marks q ht, Nat.pos_iff_ne_zero.mp hq, hq']

theorem innerMarks_eq_none (hq : 3 ≤ q) (ht : ∀ c ∈ t.head?, c ≠ mark) :
    innerMarks mark (List.replicate q mark ++ t) = none := by
  simp [innerMarks, takeWhile_marks q ht, hq]

theorem closingMarks_eq_some (hq : q < 3) (ht : ∀ c ∈ t.head?, c ≠ mark) :
    closingMarks mark (List.replicate (q + 3) mark ++ t) = some (List.replicate q mark, t) := by
  have hkept : min (q + 3 - 3) 2 = q := by omega
  have hdrop : (List.replicate (q + 3) mark ++ t).drop (q + 3) = t :=
    List.drop_left' (List.length_replicate ..)
  simp only [closingMarks, takeWhile_marks (q + 3) ht, List.length_replicate, hkept, hdrop]
  simp

theorem inside_step (h : piece s = some (ds, t)) (hlen : t.length < s.length) {es : List Char}
    (ht : inside mark piece t = some (es, rest)) :
    inside mark piece s = some (ds ++ es, rest) := by
  simp only [inside, many_of_some h hlen, Option.bind_eq_bind] at ht ⊢
  cases hclosing : closingMarks mark (many piece t).2 with
  | none => simp [hclosing] at ht
  | some r =>
    obtain ⟨last, u⟩ := r
    simp only [hclosing, Option.bind_some] at ht ⊢
    obtain ⟨rfl, rfl⟩ := Prod.mk.inj (Option.some.inj ht)
    simp

variable (hmark : ∀ s, piece (mark :: s) = innerMarks mark (mark :: s))

include hmark in
theorem inside_closing (hq : q < 3) (ht : ∀ c ∈ t.head?, c ≠ mark) :
    inside mark piece (List.replicate q mark ++ mark :: mark :: mark :: t) =
      some (List.replicate q mark, t) := by
  have hmarks : List.replicate q mark ++ mark :: mark :: mark :: t =
      List.replicate (q + 3) mark ++ t := by
    rw [List.replicate_add, List.append_assoc]
    rfl
  have hstop : piece (List.replicate (q + 3) mark ++ t) = none := by
    have hnone := innerMarks_eq_none (q := q + 3) (by omega) ht
    rw [List.replicate_succ, List.cons_append] at hnone ⊢
    rw [hmark, hnone]
  simp [hmarks, inside, many_of_none hstop, closingMarks_eq_some hq ht]

include hmark in
theorem inside_marks (hq : q < 3) (hs : ∀ c ∈ s.head?, c ≠ mark)
    (h : inside mark piece s = some (ds, rest)) :
    inside mark piece (List.replicate q mark ++ s) =
      some (List.replicate q mark ++ ds, rest) := by
  cases q with
  | zero => exact h
  | succ q =>
    have hpiece : piece (List.replicate (q + 1) mark ++ s) =
        some (List.replicate (q + 1) mark, s) := by
      have hsome := innerMarks_eq_some (q := q + 1) (by omega) hq hs
      rw [List.replicate_succ, List.cons_append] at hsome ⊢
      rw [hmark, hsome]
    exact inside_step hpiece (by simp) h

end Marks

theorem basicLinesPiece_mark (s : List Char) :
    basicLinesPiece ('"' :: s) = innerMarks '"' ('"' :: s) := rfl

theorem literalLinesPiece_mark (s : List Char) :
    literalLinesPiece ('\'' :: s) = innerMarks '\'' ('\'' :: s) := rfl

theorem inside_writeLines (q : Nat) (cs : List Char) (hq : q < 3) {t : List Char}
    (ht : ∀ c ∈ t.head?, c ≠ '"') :
    inside '"' basicLinesPiece
        (List.replicate q '"' ++ (writeLines q cs ++ '"' :: '"' :: '"' :: t)) =
      some (List.replicate q '"' ++ cs, t) := by
  -- The quotes before the text are those already written in a row.
  fun_induction writeLines q cs with
  | case1 q => simpa using inside_closing basicLinesPiece_mark hq ht
  | case2 q cs ih =>
    have hbreak : basicLinesPiece ('\n' :: (writeLines 0 cs ++ '"' :: '"' :: '"' :: t)) =
        some (['\n'], writeLines 0 cs ++ '"' :: '"' :: '"' :: t) := rfl
    have hrest := inside_step hbreak (by simp) (ih (by decide))
    exact inside_marks basicLinesPiece_mark hq (by simp) hrest
  | case3 q cs hroom ih =>
    have hrest := ih (by omega)
    rw [List.replicate_succ', List.append_assoc, List.append_assoc] at hrest
    exact hrest
  | case4 q cs hfull ih =>
    have hescape : Escape '"' ['\\', '"'] := escape_writeEscaped '"'
    have hrest := inside_step (hescape.basicLinesPiece _)
      (by simp only [List.length_append, List.length_cons]; omega) (ih (by decide))
    exact inside_marks basicLinesPiece_mark hq (by simp) hrest
  | case5 q c cs hfeed hquote ih =>
    have hescape := escape_writeEscaped c
    have hlen := List.length_pos_of_ne_nil hescape.ne_nil
    have hrest := inside_step (hescape.basicLinesPiece _)
      (by simp only [List.length_append]; omega) (ih (by decide))
    rw [List.append_assoc]
    exact inside_marks basicLinesPiece_mark hq (fun d hd => (hescape.head_ne _ d hd).1) hrest

theorem le_go (mark : Char) (cs : List Char) (best now : Nat) :
    best ≤ longestRun.go mark best now cs ∧ now ≤ longestRun.go mark best now cs := by
  fun_induction longestRun.go mark best now cs <;> omega

theorem isPlain_of_not_needsCode {c : Char} (hcode : needsCode c = false) (hfeed : c ≠ '\n') :
    isPlain c = true := by
  by_cases htab : c = '\t'
  · rw [htab]
    rfl
  · simpa [needsCode, isPlain, htab, hfeed] using hcode

theorem inside_literal {cs : List Char} {best q : Nat} (hcs : ∀ c ∈ cs, needsCode c = false)
    (hrun : longestRun.go '\'' best q cs < 3) {t : List Char} (ht : ∀ c ∈ t.head?, c ≠ '\'') :
    inside '\'' literalLinesPiece
        (List.replicate q '\'' ++ (cs ++ '\'' :: '\'' :: '\'' :: t)) =
      some (List.replicate q '\'' ++ cs, t) := by
  have hq : q < 3 := Nat.lt_of_le_of_lt (le_go '\'' cs best q).2 hrun
  induction cs generalizing best q with
  | nil => simpa using inside_closing literalLinesPiece_mark hq ht
  | cons c cs ih =>
    have hnext := fun best q => @ih best q fun d hd => hcs d (by simp [hd])
    rw [longestRun.go] at hrun
    by_cases hmark : c = '\''
    · subst hmark
      rw [if_pos rfl] at hrun
      have hrest := hnext best (q + 1) hrun (Nat.lt_of_le_of_lt (le_go '\'' cs best _).2 hrun)
      rw [List.replicate_succ', List.append_assoc, List.append_assoc] at hrest
      exact hrest
    · rw [if_neg hmark] at hrun
      have hpiece : literalLinesPiece (c :: (cs ++ '\'' :: '\'' :: '\'' :: t)) =
          some ([c], cs ++ '\'' :: '\'' :: '\'' :: t) := by
        have hcode := hcs c (by simp)
        by_cases hfeed : c = '\n'
        · subst hfeed
          rfl
        · have hplain := isPlain_of_not_needsCode hcode hfeed
          simp_all [literalLinesPiece]
      have hrest := inside_step hpiece (by simp) (hnext _ 0 hrun (by decide))
      exact inside_marks literalLinesPiece_mark hq (by simpa using hmark) hrest

theorem go_pos {mark : Char} {cs : List Char} (h : mark ∈ cs) (best now : Nat) :
    0 < longestRun.go mark best now cs := by
  induction cs generalizing best now with
  | nil => cases h
  | cons c cs ih =>
    rw [longestRun.go]
    by_cases hc : c = mark
    · have hle := (le_go mark cs best (now + 1)).2
      rw [if_pos hc]
      omega
    · rw [if_neg hc]
      exact ih ((List.mem_cons.mp h).resolve_left (Ne.symm hc)) _ _

theorem stringForm_literal {cs : List Char} (h : stringForm cs = .literal) :
    ∀ c ∈ cs, c ≠ '\'' ∧ isPlain c = true := by
  simp only [stringForm] at h
  split_ifs at h with hbasic hliteral
  simp only [Bool.and_eq_true, Bool.not_eq_true', List.any_eq_false, decide_eq_true_eq,
    List.contains_eq_mem, decide_eq_false_iff_not] at hliteral
  obtain ⟨⟨hcodes, hruns⟩, hlines⟩ := hliteral
  intro c hc
  refine ⟨?_, isPlain_of_not_needsCode (by simpa using hcodes c hc) ?_⟩
  · rintro rfl
    exact absurd hruns (Nat.pos_iff_ne_zero.mp (go_pos hc 0 0))
  · rintro rfl
    exact hlines hc

theorem stringForm_literalLines {cs : List Char} (h : stringForm cs = .literalLines) :
    (∀ c ∈ cs, needsCode c = false) ∧ longestRun '\'' cs < 3 := by
  simp only [stringForm] at h
  split_ifs at h with hbasic hliteral hbasicLines hliteralLines
  simp only [Bool.and_eq_true, Bool.not_eq_true', List.any_eq_false, decide_eq_true_eq]
    at hliteralLines
  obtain ⟨hcodes, hruns⟩ := hliteralLines
  exact ⟨fun c hc => by simpa using hcodes c hc, by omega⟩

theorem newline_writeLines {cs : List Char} (h : '\n' ∉ cs) (t : List Char) :
    newline (writeLines 0 cs ++ '"' :: t) = none := by
  fun_cases writeLines 0 cs with
  | case1 => rfl
  | case2 => simp at h
  | case3 => rfl
  | case4 => rfl
  | case5 c cs =>
    rw [List.append_assoc]
    exact newline_eq_none fun d hd => ((escape_writeEscaped c).head_ne _ d hd).2

theorem optional_newline {cs body : List Char} (h : '\n' ∉ cs → newline body = none) :
    (optional newline ((if cs.contains '\n' then ['\n'] else []) ++ body)).2 = body := by
  by_cases hcs : '\n' ∈ cs
  · simp [hcs, Reader.optional, newline]
  · simp [hcs, Reader.optional, h hcs]

theorem string_quote {s : List Char} (h : ∀ r, s ≠ '"' :: '"' :: r) :
    string ('"' :: s) = basicString ('"' :: s) := by
  rw [string]
  exact h

theorem string_apostrophe {s : List Char} (h : ∀ r, s ≠ '\'' :: '\'' :: r) :
    string ('\'' :: s) = literalString ('\'' :: s) := by
  rw [string]
  · simp
  · simp
  · simpa using h

/-- A text reads back from the form it is written in, if no quote of either kind follows. -/
theorem string_written (cs : List Char) {t : List Char} (ht : ∀ c ∈ t.head?, c ≠ '"' ∧ c ≠ '\'') :
    string (writeStringChars cs ++ t) = some (cs, t) := by
  have hquote : ∀ c ∈ t.head?, c ≠ '"' := fun c hc => (ht c hc).1
  have happ : ∀ c ∈ t.head?, c ≠ '\'' := fun c hc => (ht c hc).2
  simp only [writeStringChars]
  cases hform : stringForm cs with
  | basic =>
    simp only [List.append_assoc, List.cons_append, List.nil_append]
    rw [string_quote, basicString_written]
    intro r hr
    cases cs with
    | nil =>
      obtain rfl : t = '"' :: r := (List.cons.inj hr).2
      exact hquote '"' rfl rfl
    | cons c cs =>
      rw [List.flatMap_cons, List.append_assoc] at hr
      have hhead := (escape_writeEscaped c).head_ne (cs.flatMap writeEscaped ++ '"' :: t)
      rw [hr] at hhead
      exact (hhead '"' rfl).1 rfl
  | literal =>
    have hcs := stringForm_literal hform
    simp only [List.append_assoc, List.cons_append, List.nil_append]
    rw [string_apostrophe, literalString_written hcs]
    intro r hr
    cases cs with
    | nil =>
      obtain rfl : t = '\'' :: r := (List.cons.inj hr).2
      exact happ '\'' rfl rfl
    | cons c cs => exact (hcs c (by simp)).1 (List.cons.inj hr).1
  | basicLines =>
    have hread := inside_writeLines 0 cs (by decide) hquote
    simp only [List.append_assoc, List.cons_append, List.nil_append]
    exact (linesString_eq '"' basicLinesPiece _).trans
      ((congrArg _ (optional_newline fun h => newline_writeLines h _)).trans hread)
  | literalLines =>
    obtain ⟨hcodes, hruns⟩ := stringForm_literalLines hform
    have hread := inside_literal (q := 0) hcodes hruns happ
    simp only [List.append_assoc, List.cons_append, List.nil_append]
    refine (linesString_eq '\'' literalLinesPiece _).trans
      ((congrArg _ (optional_newline fun h => newline_eq_none ?_)).trans hread)
    intro c hc
    cases cs with
    | nil =>
      obtain rfl : '\'' = c := Option.some.inj hc
      decide
    | cons d cs =>
      obtain rfl : d = c := Option.some.inj hc
      refine ⟨fun hfeed => h (by simp [hfeed]), ?_⟩
      rintro rfl
      exact absurd (hcodes '\r' (by simp)) (by decide)

end LorawanRouting.Toml
