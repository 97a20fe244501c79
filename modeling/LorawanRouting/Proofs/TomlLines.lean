import LorawanRouting.Proofs.TomlStrings

/-!
Lines of TOML text as they are written: headers of one name, and entries of a name with a string or
a natural number. Each line reads back, whatever lines follow it.
-/

namespace LorawanRouting.Toml

open Reader

section Digits

variable {ds t : List Char} {n : Nat}

structure Digits (ds : List Char) (n : Nat) : Prop where
  all : ∀ d ∈ ds, d.isDigit = true
  ne_nil : ds ≠ []
  head : ds = ['0'] ∨ ∀ d ∈ ds.head?, d ≠ '0'
  value : Nat.ofDigitChars 10 ds 0 = n

theorem digits_toDigits (n : Nat) : Digits (Nat.toDigits 10 n) n where
  all := Numeral.isDigit_toDigits n
  ne_nil := Nat.toDigits_ne_nil
  head := by
    rcases Nat.eq_zero_or_pos n with rfl | hn
    · exact Or.inl rfl
    · exact Or.inr (Numeral.head_toDigits hn)
  value := Nat.ofDigitChars_ten_toDigits

theorem head_rest (hds : ∀ d ∈ ds, d.isDigit = true) (k : Nat) :
    ∀ c ∈ ((ds ++ '\n' :: t).drop k).head?, k ≤ ds.length → c.isDigit = true ∨ c = '\n' := by
  intro c hc hk
  rw [List.drop_append_of_le_length hk] at hc
  cases hdrop : ds.drop k with
  | nil =>
    rw [hdrop] at hc
    exact Or.inr (Option.some.inj hc).symm
  | cons d rest =>
    rw [hdrop] at hc
    obtain rfl := Option.some.inj hc
    exact Or.inl (hds d (List.mem_of_mem_drop (hdrop ▸ List.mem_cons_self)))

theorem char_after_fixed (hds : ∀ d ∈ ds, d.isDigit = true) {c : Char} (hc : c.isDigit = false)
    (hfeed : c ≠ '\n') {k m : Nat} {s : List Char}
    (h : Rfc3339.fixed k (ds ++ '\n' :: t) = some (m, s)) : char c s = none := by
  simp only [Rfc3339.fixed, exactly, Option.bind_eq_bind] at h
  split at h
  case isTrue htaken =>
    obtain ⟨hlen, hall⟩ := htaken
    have hk : k ≤ ds.length := by
      by_contra hlong
      have hmem : '\n' ∈ (ds ++ '\n' :: t).take k := by
        rw [List.take_append, show k - ds.length = (k - ds.length - 1) + 1 by omega]
        simp
      have hdigit := List.all_eq_true.mp hall _ hmem
      cases hdigit
    obtain ⟨-, rfl⟩ := Prod.mk.inj (Option.some.inj h)
    have hhead := head_rest (t := t) hds k
    cases hrest : (ds ++ '\n' :: t).drop k with
    | nil => rfl
    | cons d rest =>
      rw [hrest] at hhead
      have hne : d ≠ c := by
        rintro rfl
        rcases hhead d rfl hk with hd | hd
        · rw [hc] at hd
          cases hd
        · exact hfeed hd
      simp [char, hne]
  case isFalse => cases h

theorem moment_digits (hds : ∀ d ∈ ds, d.isDigit = true) : moment (ds ++ '\n' :: t) = none := by
  have hdate : Rfc3339.readDate (ds ++ '\n' :: t) = none := by
    simp only [Rfc3339.readDate, Option.bind_eq_bind, Option.bind_eq_none_iff]
    intro r hr
    simp [char_after_fixed (c := '-') hds rfl (by decide) hr]
  have htime : Rfc3339.readTime (ds ++ '\n' :: t) = none := by
    simp only [Rfc3339.readTime, Option.bind_eq_bind, Option.bind_eq_none_iff]
    intro r hr
    simp [char_after_fixed (c := ':') hds rfl (by decide) hr]
  simp [moment, hdate, timeOfDay, htime]

theorem grouped_digits (hds : ∀ d ∈ ds, d.isDigit = true) (hne : ds ≠ []) :
    grouped Char.isDigit (ds ++ '\n' :: t) = some (ds, '\n' :: t) := by
  cases ds with
  | nil => exact absurd rfl hne
  | cons d ds =>
    simp only [List.cons_append, grouped, hds d (by simp), if_true]
    rw [many_chars (fun c hc u => ?_) rfl]
    have hdigit := hds c (by simp [hc])
    simp [Numeral.ne_of_isDigit hdigit (c := '_') rfl, hdigit]

theorem unsignedDecimal_digits (h : Digits ds n) :
    unsignedDecimal (ds ++ '\n' :: t) = some (ds, '\n' :: t) := by
  rcases h.head with rfl | hhead
  · rfl
  · have hgrouped := grouped_digits (t := t) h.all h.ne_nil
    have hne := h.ne_nil
    cases ds with
    | nil => exact absurd rfl hne
    | cons d ds =>
      rw [List.cons_append] at hgrouped ⊢
      rw [unsignedDecimal]
      · exact hgrouped
      · simp [hhead d rfl]

theorem Digits.optional_sign (h : Digits ds n) :
    Reader.optional sign (ds ++ '\n' :: t) = (none, ds ++ '\n' :: t) := by
  have hne := h.ne_nil
  have hall := h.all
  cases ds with
  | nil => exact absurd rfl hne
  | cons d ds =>
    have hd := hall d (by simp)
    simp [Reader.optional, sign, oneOf, Numeral.ne_of_isDigit hd (c := '+') rfl,
      Numeral.ne_of_isDigit hd (c := '-') rfl]

theorem decimalFloat_digits (h : Digits ds n) : decimalFloat (ds ++ '\n' :: t) = none := by
  have hfraction : Reader.optional fraction ('\n' :: t) = (none, '\n' :: t) := rfl
  have hexponent : Reader.optional exponent ('\n' :: t) = (none, '\n' :: t) := rfl
  simp [decimalFloat, h.optional_sign, unsignedDecimal_digits h, hfraction, hexponent]

theorem word_digits {c : Char} (hc : c.isDigit = false) (w : List Char) (h : Digits ds n) :
    word (c :: w) (ds ++ '\n' :: t) = none := by
  have hne := h.ne_nil
  have hall := h.all
  cases ds with
  | nil => exact absurd rfl hne
  | cons d ds =>
    have hd := Numeral.ne_of_isDigit (hall d (by simp)) hc
    simp [word, Ne.symm hd]

theorem specialFloat_digits (h : Digits ds n) : specialFloat (ds ++ '\n' :: t) = none := by
  simp [specialFloat, h.optional_sign, word_digits (c := 'i') rfl _ h,
    word_digits (c := 'n') rfl _ h]

abbrev Fits (n : Nat) : Prop := n < 9223372036854775808

theorem integer64?_natCast (hn : Fits n) : integer64? (n : Int) = some (.integer n) := by
  have hlow : (-9223372036854775808 : Int) ≤ n := by omega
  have hhigh : (n : Int) < 9223372036854775808 := by omega
  simp only [integer64?, hlow, hhigh, and_self, if_true]

theorem integer_digits (h : Digits ds n) (hn : Fits n) :
    integer (ds ++ '\n' :: t) = some (.integer n, '\n' :: t) := by
  -- A numeral that begins with zero is zero, so it has no base in front of it.
  have hbase : ∀ c : Char, c ≠ '\n' → ∀ s, ds ++ '\n' :: t ≠ '0' :: c :: s := by
    intro c hc s heq
    rcases h.head with rfl | hhead
    · exact hc (List.cons.inj (List.cons.inj heq).2).1.symm
    · have hne := h.ne_nil
      cases ds with
      | nil => exact hne rfl
      | cons d ds => exact hhead d rfl (List.cons.inj heq).1
  -- Rewritten step by step: `simp` would make the kernel count down the bounds of `integer64?`.
  rw [integer, h.optional_sign]
  · dsimp only
    rw [unsignedDecimal_digits h, Option.bind_eq_bind, Option.bind_some]
    dsimp only
    rw [h.value, if_neg (by simp), integer64?_natCast hn]
    rfl
  · exact hbase 'x' (by decide)
  · exact hbase 'o' (by decide)
  · exact hbase 'b' (by decide)

end Digits

structure WrittenValue (w : List Char) (v : Value) : Prop where
  skipSpace_append : ∀ t, skipSpace (w ++ t) = w ++ t
  value_append : ∀ depth t, value depth (w ++ '\n' :: t) = some (v, '\n' :: t)

theorem value_eq_scalar {c : Char} (hbracket : c ≠ '[') (hbrace : c ≠ '\x7b') (depth : Nat)
    (s : List Char) : value depth (c :: s) = scalar (c :: s) := by
  cases depth with
  | zero => simp [value, hbracket, hbrace]
  | succ depth => simp [value, hbracket, hbrace]

theorem skipSpace_cons {c : Char} (hc : isSpace c = false) (s : List Char) :
    skipSpace (c :: s) = c :: s := by
  simp [skipSpace, hc]

theorem writtenValue_number {n : Nat} (hn : Fits n) :
    WrittenValue (Nat.toDigits 10 n) (.integer n) := by
  have hdigits := digits_toDigits n
  have hne := hdigits.ne_nil
  generalize Nat.toDigits 10 n = ds at *
  cases ds with
  | nil => exact absurd rfl hne
  | cons d ds =>
    have hd : d.isDigit = true := hdigits.all d (by simp)
    have hother : ∀ c : Char, c.isDigit = false → d ≠ c := fun c => Numeral.ne_of_isDigit hd
    refine ⟨fun t => skipSpace_cons ?_ _, fun depth t => ?_⟩
    · simp [isSpace, hother ' ' rfl, hother '\t' rfl]
    · have hinteger := integer_digits (t := t) hdigits hn
      have hmoment := moment_digits (t := t) hdigits.all
      have hfloat := decimalFloat_digits (t := t) hdigits
      have hspecial := specialFloat_digits (t := t) hdigits
      rw [List.cons_append] at *
      rw [value_eq_scalar (hother '[' rfl) (hother '\x7b' rfl), scalar]
      · simp [firstOf, hmoment, hfloat, hspecial, hinteger]
      · simp [hother '"' rfl]
      · simp [hother '\'' rfl]

theorem exists_writeStringChars (cs : List Char) :
    ∃ c w, writeStringChars cs = c :: w ∧ (c = '"' ∨ c = '\'') := by
  rw [writeStringChars]
  cases stringForm cs with
  | basic => exact ⟨_, _, rfl, Or.inl rfl⟩
  | literal => exact ⟨_, _, rfl, Or.inr rfl⟩
  | basicLines => exact ⟨_, _, rfl, Or.inl rfl⟩
  | literalLines => exact ⟨_, _, rfl, Or.inr rfl⟩

theorem writtenValue_text (cs : List Char) :
    WrittenValue (writeStringChars cs) (.text (String.ofList cs)) := by
  have hstring : ∀ t, string (writeStringChars cs ++ '\n' :: t) = some (cs, '\n' :: t) := fun t =>
    string_written cs (by simp)
  obtain ⟨c, w, hw, hc⟩ := exists_writeStringChars cs
  rw [hw] at hstring ⊢
  rcases hc with rfl | rfl
  all_goals
    refine ⟨fun t => skipSpace_cons rfl _, fun depth t => ?_⟩
    have hs := hstring t
    rw [List.cons_append] at hs ⊢
    rw [value_eq_scalar (by decide) (by decide)]
    simp [scalar, hs]

structure BareKey (k : String) : Prop where
  ne_nil : k.toList ≠ []
  bare : ∀ c ∈ k.toList, isBare c = true

theorem bareKey_iff (k : String) :
    (!k.toList.isEmpty && k.toList.all isBare) = true ↔ BareKey k := by
  rw [Bool.and_eq_true, Bool.not_eq_true', List.isEmpty_eq_false_iff, List.all_eq_true]
  exact ⟨fun h => ⟨h.1, h.2⟩, fun h => ⟨h.ne_nil, h.bare⟩⟩

instance (k : String) : Decidable (BareKey k) := decidable_of_iff _ (bareKey_iff k)

section Keys

variable {k : String} {rest : List Char}

theorem ne_of_isBare {c d : Char} (hc : isBare c = true) (hd : isBare d = false) : c ≠ d := by
  rintro rfl
  rw [hc] at hd
  cases hd

theorem isSpace_of_isBare {c : Char} (hc : isBare c = true) : isSpace c = false := by
  simp [isSpace, ne_of_isBare hc (d := ' ') rfl, ne_of_isBare hc (d := '\t') rfl]

theorem BareKey.exists_cons (hk : BareKey k) : ∃ c cs, k.toList = c :: cs ∧ isBare c = true := by
  have hne := hk.ne_nil
  have hbare := hk.bare
  cases hlist : k.toList with
  | nil => exact absurd hlist hne
  | cons c cs => exact ⟨c, cs, rfl, hbare c (by simp [hlist])⟩

theorem simpleKey_bare (hk : BareKey k) (hrest : ∀ c ∈ rest.head?, isBare c = false) :
    simpleKey (k.toList ++ rest) = some (k, rest) := by
  have hrun := run_append hk.ne_nil hk.bare hrest
  obtain ⟨c, cs, hlist, hc⟩ := hk.exists_cons
  have hofList : String.ofList (c :: cs) = k := by rw [← hlist, String.ofList_toList]
  rw [hlist, List.cons_append] at hrun ⊢
  rw [simpleKey]
  · simp [hrun, hofList]
  · simp [ne_of_isBare hc (d := '"') rfl]
  · simp [ne_of_isBare hc (d := '\'') rfl]

theorem key_bare (hk : BareKey k) (hrest : ∀ c ∈ rest.head?, isBare c = false)
    (hdot : ∀ c ∈ (skipSpace rest).head?, c ≠ '.') :
    key (k.toList ++ rest) = some (([], k), skipSpace rest) := by
  have hspaced : spacedKey (k.toList ++ rest) = some (k, skipSpace rest) := by
    have hskip : skipSpace (k.toList ++ rest) = k.toList ++ rest := by
      obtain ⟨c, cs, hlist, hc⟩ := hk.exists_cons
      rw [hlist, List.cons_append, skipSpace_cons (isSpace_of_isBare hc)]
    simp [spacedKey, hskip, simpleKey_bare hk hrest]
  have hstop : char '.' (skipSpace rest) = none := by
    cases hskipped : skipSpace rest with
    | nil => rfl
    | cons c cs => exact if_neg (hdot c (by simp [hskipped]))
  simp [key, hspaced, many_of_none, hstop, depthLimit]

end Keys

structure WrittenLine (text : String) (l : Line) : Prop where
  ne_nil : text.toList ≠ []
  line_append : ∀ t, line (text.toList ++ t) = some (l, t)

section Lines

variable {k text : String} {w t : List Char} {v : Value}

theorem lineEnd_newline (t : List Char) : lineEnd ('\n' :: t) = some ((), t) := rfl

theorem writtenLine_blank : WrittenLine "\n" .blank := ⟨by decide, fun _ => rfl⟩

theorem writtenLine_header (hk : BareKey k) :
    WrittenLine (writeHeader k) (.opens (.table [] k [])) := by
  refine ⟨by simp [writeHeader], fun t => ?_⟩
  have hkey : key (k.toList ++ ']' :: '\n' :: t) = some (([], k), ']' :: '\n' :: t) :=
    key_bare hk (by simp [isBare]) (by simp [skipSpace, isSpace])
  obtain ⟨c, cs, hlist, hc⟩ := hk.exists_cons
  have hheader : header ('[' :: (k.toList ++ ']' :: '\n' :: t)) =
      some (.table [] k [], '\n' :: t) := by
    rw [hlist, List.cons_append] at hkey ⊢
    rw [header]
    · simp [char_self, hkey]
    · simp [ne_of_isBare hc (d := '[') rfl]
  have hchars : (writeHeader k).toList ++ t = '[' :: (k.toList ++ ']' :: '\n' :: t) := by
    simp [writeHeader]
  rw [hchars, line, skipSpace_cons rfl]
  simp [hheader, lineEnd_newline]

theorem lineEnd_bare {c : Char} (hc : isBare c = true) (s : List Char) :
    lineEnd (c :: s) = none := by
  have hcomment : Reader.optional comment (c :: s) = (none, c :: s) := by
    simp [Reader.optional, comment, ne_of_isBare hc (d := '#') rfl]
  have hnewline : newline (c :: s) = none := by
    rw [newline] <;> simp [ne_of_isBare hc (d := '\n') rfl, ne_of_isBare hc (d := '\r') rfl]
  simp [lineEnd, skipSpace_cons (isSpace_of_isBare hc), hcomment, hnewline]

theorem writtenLine_entry (hk : BareKey k) (hv : WrittenValue text.toList v) :
    WrittenLine (writeEntry k text) (.sets ⟨[], k, v⟩) := by
  refine ⟨by simp [writeEntry], fun t => ?_⟩
  have hkey : key (k.toList ++ ' ' :: '=' :: ' ' :: (text.toList ++ '\n' :: t)) =
      some (([], k), '=' :: ' ' :: (text.toList ++ '\n' :: t)) :=
    key_bare hk (by simp [isBare]) (by simp [skipSpace, isSpace])
  have hskip : skipSpace (' ' :: (text.toList ++ '\n' :: t)) = text.toList ++ '\n' :: t :=
    hv.skipSpace_append _
  have hpair : pair (value (depthLimit - 1))
      (k.toList ++ ' ' :: '=' :: ' ' :: (text.toList ++ '\n' :: t)) =
        some (⟨[], k, v⟩, '\n' :: t) := by
    simp [pair, hkey, char_self, hskip, hv.value_append]
  have hchars : (writeEntry k text).toList ++ t =
      k.toList ++ ' ' :: '=' :: ' ' :: (text.toList ++ '\n' :: t) := by
    simp [writeEntry]
  obtain ⟨c, cs, hlist, hc⟩ := hk.exists_cons
  rw [hlist, List.cons_append] at hpair hchars
  rw [hchars, line, skipSpace_cons (isSpace_of_isBare hc)]
  simp [ne_of_isBare hc (d := '[') rfl, lineEnd_bare hc, hpair, lineEnd_newline]

theorem read?_lines {ls : List (String × Line)} (hlines : ∀ l ∈ ls, WrittenLine l.1 l.2)
    (htext : text.toList = ls.flatMap fun l => l.1.toList)
    (hmark : skipMark text.toList = text.toList) :
    read? text = Entries.ofSections (sections (ls.map Prod.snd)) := by
  have hmany : many line text.toList = (ls.map Prod.snd, []) := by
    rw [htext, ← List.append_nil (ls.flatMap _)]
    exact many_flatMap (fun l hl => (hlines l hl).line_append) (fun l hl => (hlines l hl).ne_nil) rfl
  simp [read?, hmark, hmany, skipSpace]

end Lines

end LorawanRouting.Toml
