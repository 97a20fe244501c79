import LorawanRouting.Proofs.Readers
import LorawanRouting.Text.Json

/-!
Reading JSON objects of two members as they are written for the fields of a device: plain names,
values that are truth values or natural numbers, and no spaces.
-/

namespace LorawanRouting.Json
open Numeral (isDigit_toDigits head_toDigits ne_of_isDigit)

def Plain (name : List Char) : Prop := ∀ c ∈ name, c ≠ '"' ∧ c ≠ '\\' ∧ 32 ≤ c.toNat

instance (name : List Char) : Decidable (Plain name) := List.decidableBAll _ _

theorem written_plain {name : List Char} (h : Plain name) (rest : List Char) :
    written (name ++ '"' :: rest) = some (name, rest) := by
  induction name with
  | nil => rfl
  | cons c cs ih =>
    obtain ⟨hquote, hslash, hcontrol⟩ := h c (by simp)
    have hcs := ih fun d hd => h d (by simp [hd])
    rw [List.cons_append, written]
    · simp [hslash, hcs]
      omega
    · simpa using hquote
    · intros
      simp_all
    · intros
      simp_all

theorem decode?_plain {name : List Char} (h : Plain name) : decode? name = some name := by
  induction name with
  | nil => simp [decode?]
  | cons c cs ih =>
    obtain ⟨-, hslash, -⟩ := h c (by simp)
    have hcs := ih fun d hd => h d (by simp [hd])
    rw [decode?]
    · simp [hcs]
    all_goals
      intros
      simp_all

structure Scalar (w : List Char) (v : Json) : Prop where
  head_not_space : ∀ c ∈ w.head?, isSpace c = false
  ne_nil : w ≠ []
  value_append : ∀ (depth : Nat) (c : Char) (rest : List Char), c = ',' ∨ c = '\x7d' →
    value (depth + 1) (w ++ c :: rest) = some (v, c :: rest)

theorem scalar_boolean (b : Bool) : Scalar (toString b).toList (boolean b) := by
  cases b with
  | false =>
    refine ⟨fun c hc => ?_, by decide, fun _ _ _ _ => rfl⟩
    obtain rfl : 'f' = c := Option.some.inj hc
    rfl
  | true =>
    refine ⟨fun c hc => ?_, by decide, fun _ _ _ _ => rfl⟩
    obtain rfl : 't' = c := Option.some.inj hc
    rfl

theorem run_digits (n : Nat) {c : Char} (hc : c.isDigit = false) (rest : List Char) :
    Reader.run Char.isDigit (Nat.toDigits 10 n ++ c :: rest) =
      some (Nat.toDigits 10 n, c :: rest) := by
  exact Reader.run_append Nat.toDigits_ne_nil (isDigit_toDigits n) (by simpa using hc)

theorem unsignedNumber_digits (n : Nat) {c : Char} (hc : c = ',' ∨ c = '\x7d') (rest : List Char) :
    unsignedNumber (Nat.toDigits 10 n ++ c :: rest) = some (Nat.toDigits 10 n, c :: rest) := by
  have hdigit : c.isDigit = false := by rcases hc with rfl | rfl <;> rfl
  have hfrac : fraction (c :: rest) = some ([], c :: rest) := by rcases hc with rfl | rfl <;> rfl
  have hexp : exponent (c :: rest) = some ([], c :: rest) := by rcases hc with rfl | rfl <;> rfl
  have hrun := run_digits n hdigit rest
  rcases Nat.eq_zero_or_pos n with rfl | hn
  · simp [unsignedNumber, hfrac, hexp]
  · have hhead := head_toDigits hn
    have hne : Nat.toDigits 10 n ≠ [] := Nat.toDigits_ne_nil
    generalize Nat.toDigits 10 n = ds at *
    cases ds with
    | nil => exact absurd rfl hne
    | cons d ds =>
      have hd : d ≠ '0' := hhead d (by simp)
      rw [List.cons_append] at hrun ⊢
      simp [unsignedNumber, hd, hrun, hfrac, hexp]

theorem value_digit {d : Char} (hd : d.isDigit = true) (depth : Nat) (s : List Char) :
    value (depth + 1) (d :: s) = (readNumber (d :: s)).map fun (n, r) => (number n, r) := by
  rw [value]
  dsimp only
  split
  case h_7 => rfl
  all_goals
    rename_i h
    exact absurd (List.cons.inj h).1 (ne_of_isDigit hd rfl)

theorem scalar_number (n : Nat) : Scalar (Nat.toDigits 10 n) (number (Nat.toDigits 10 n)) := by
  have hd := isDigit_toDigits n
  have hne : Nat.toDigits 10 n ≠ [] := Nat.toDigits_ne_nil
  have hnumber := @unsignedNumber_digits n
  generalize Nat.toDigits 10 n = ds at *
  cases ds with
  | nil => exact absurd rfl hne
  | cons d ds =>
    have hdigit := hd d (by simp)
    refine ⟨?_, hne, ?_⟩
    · have hspace : isSpace d = false := by
        simp [isSpace, ne_of_isDigit hdigit (c := ' ') rfl, ne_of_isDigit hdigit (c := '\t') rfl,
          ne_of_isDigit hdigit (c := '\n') rfl, ne_of_isDigit hdigit (c := '\r') rfl]
      simpa using hspace
    · intro depth c rest hc
      have hs := hnumber hc rest
      rw [List.cons_append] at hs ⊢
      have hread : readNumber (d :: (ds ++ c :: rest)) = some (d :: ds, c :: rest) := by
        rw [readNumber, hs]
        simpa using ne_of_isDigit hdigit rfl
      rw [value_digit hdigit, hread, Option.map_some]

theorem skipSpace_cons {c : Char} (hc : isSpace c = false) (s : List Char) :
    skipSpace (c :: s) = c :: s := by
  simp [skipSpace, hc]

theorem Scalar.skipSpace_append {w : List Char} {v : Json} (h : Scalar w v) (s : List Char) :
    skipSpace (w ++ s) = w ++ s := by
  have hhead := h.head_not_space
  have hne := h.ne_nil
  cases w with
  | nil => exact absurd rfl hne
  | cons c cs => exact skipSpace_cons (hhead c (by simp)) _

def memberText (name w : List Char) : List Char := '"' :: (name ++ '"' :: ':' :: w)

theorem member_memberText {name w : List Char} {v : Json} (hname : Plain name) (hw : Scalar w v)
    (depth : Nat) {c : Char} (hc : c = ',' ∨ c = '\x7d') (rest : List Char) :
    member (value (depth + 1)) (memberText name w ++ c :: rest) = some ((name, v), c :: rest) := by
  have hwritten := written_plain hname (':' :: (w ++ c :: rest))
  have hcolon : skipSpace (':' :: (w ++ c :: rest)) = ':' :: (w ++ c :: rest) :=
    skipSpace_cons rfl _
  simp [member, memberText, Reader.char, hwritten, hcolon, hw.skipSpace_append,
    hw.value_append depth c rest hc]

def next {α : Type} (item : Reader α) : Reader α := fun s => do
  let (_, s) ← Reader.char ',' (skipSpace s)
  item (skipSpace s)

theorem many_next {α : Type} {item : Reader α} {close : Char} {b : α} {s rest : List Char}
    (hclose : isSpace close = false) (hcomma : close ≠ ',') (hs : skipSpace s = s)
    (hb : item s = some (b, close :: rest)) (hlen : rest.length < s.length) :
    Reader.many (next item) (',' :: s) = ([b], close :: rest) := by
  have hnext : next item (',' :: s) = some (b, close :: rest) := by
    simp [next, skipSpace_cons (c := ',') rfl, Reader.char, hs, hb]
  have hstop : Reader.many (next item) (close :: rest) = ([], close :: rest) := by
    rw [Reader.many]
    simp [next, skipSpace_cons hclose, Reader.char, hcomma]
  rw [Reader.many, hnext]
  simp [hlen, hstop]

theorem listed_cons {α : Type} {item : Reader α} {close c : Char} (hc : isSpace c = false)
    (hne : c ≠ close) (s : List Char) :
    listed item close (c :: s) = (item (c :: s)).bind fun p =>
      (Reader.char close (skipSpace (Reader.many (next item) p.2).2)).bind fun q =>
        some (p.1 :: (Reader.many (next item) p.2).1, q.2) := by
  simp only [listed, skipSpace_cons hc, hne, if_false]
  rfl

theorem listed_pair {α : Type} {item : Reader α} {close c : Char} {a b : α}
    {s₁ s₂ rest : List Char} (hclose : isSpace close = false) (hcomma : close ≠ ',')
    (hc : isSpace c = false) (hne : c ≠ close) (ha : item (c :: s₁) = some (a, ',' :: s₂))
    (hs₂ : skipSpace s₂ = s₂) (hb : item s₂ = some (b, close :: rest))
    (hlen : rest.length < s₂.length) :
    listed item close (c :: s₁) = some ([a, b], rest) := by
  have hmany := many_next hclose hcomma hs₂ hb hlen
  simp [listed_cons hc hne, ha, hmany, skipSpace_cons hclose, Reader.char]

theorem value_brace (depth : Nat) (s : List Char) :
    value (depth + 1) ('\x7b' :: s) =
      (listed (member (value depth)) '\x7d' s).map fun (ms, r) => (object ms, r) := rfl

def pairText (name₁ w₁ name₂ w₂ : List Char) : List Char :=
  memberText name₁ w₁ ++ ',' :: (memberText name₂ w₂ ++ ['\x7d'])

theorem ofList_cons_ne_empty (c : Char) (cs : List Char) : String.ofList (c :: cs) ≠ "" := by
  intro h
  have hlist := congrArg String.toList h
  simp at hlist

theorem ofList_pairText {name₁ name₂ : List Char} {opening between closing w₁ w₂ : String}
    (hopening : opening.toList = '\x7b' :: '"' :: (name₁ ++ ['"', ':']))
    (hbetween : between.toList = ',' :: '"' :: (name₂ ++ ['"', ':']))
    (hclosing : closing.toList = ['\x7d']) :
    opening ++ w₁ ++ between ++ w₂ ++ closing =
      String.ofList ('\x7b' :: pairText name₁ w₁.toList name₂ w₂.toList) := by
  apply String.toList_injective
  simp [hopening, hbetween, hclosing, pairText, memberText]

theorem value_pairText {name₁ name₂ w₁ w₂ : List Char} {v₁ v₂ : Json} (hname₁ : Plain name₁)
    (hname₂ : Plain name₂) (hw₁ : Scalar w₁ v₁) (hw₂ : Scalar w₂ v₂) (depth : Nat) :
    value (depth + 2) ('\x7b' :: pairText name₁ w₁ name₂ w₂) =
      some (object [(name₁, v₁), (name₂, v₂)], []) := by
  have ha := member_memberText hname₁ hw₁ depth (.inl rfl) (memberText name₂ w₂ ++ ['\x7d'])
  have hb := member_memberText hname₂ hw₂ depth (.inr rfl) []
  have hlisted : listed (member (value (depth + 1))) '\x7d' (pairText name₁ w₁ name₂ w₂) =
      some ([(name₁, v₁), (name₂, v₂)], []) :=
    listed_pair rfl (by decide) rfl (by decide) ha (skipSpace_cons rfl _) hb (by simp)
  rw [value_brace, hlisted, Option.map_some]

theorem read?_pairText {name₁ name₂ w₁ w₂ : List Char} {v₁ v₂ : Json} (hname₁ : Plain name₁)
    (hname₂ : Plain name₂) (hw₁ : Scalar w₁ v₁) (hw₂ : Scalar w₂ v₂) :
    read? (String.ofList ('\x7b' :: pairText name₁ w₁ name₂ w₂)) =
      some (object [(name₁, v₁), (name₂, v₂)]) := by
  have hvalue := value_pairText hname₁ hname₂ hw₁ hw₂ (pairText name₁ w₁ name₂ w₂).length
  rw [read?, String.toList_ofList, skipSpace_cons rfl, List.length_cons, hvalue]
  rfl

theorem record?_pair {name₁ name₂ : List Char} {v₁ v₂ : Json} (hname₁ : Plain name₁)
    (hname₂ : Plain name₂) (hne : name₁ ≠ name₂) :
    (object [(name₁, v₁), (name₂, v₂)]).record? [String.ofList name₁, String.ofList name₂] =
      some [v₁, v₂] := by
  have h : String.ofList name₁ ≠ String.ofList name₂ := fun h => hne (String.ofList_injective h)
  simp [record?, decode?_plain hname₁, decode?_plain hname₂, h, Ne.symm h]

theorem natural?_toDigits (n : Nat) : (number (Nat.toDigits 10 n)).natural? = some n := by
  rw [natural?, if_pos (List.all_eq_true.mpr (isDigit_toDigits n)), Nat.ofDigitChars_ten_toDigits]

end LorawanRouting.Json
