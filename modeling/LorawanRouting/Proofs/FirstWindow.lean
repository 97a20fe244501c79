import LorawanRouting.Band
import Mathlib.Data.List.Infix

/-!
The first receive window on plans with wide downlink channels. Every uplink leads to one of the eight
wide channels, neighbouring narrow channels to neighbouring wide ones, and its data rate is taken over
with the wide bandwidth in place of each narrow one.
-/

namespace LorawanRouting

def narrowName : List Char := ['B', 'W', '1', '2', '5']

def wideName : List Char := ['B', 'W', '5', '0', '0']

variable {s t : List Char}

theorem length_widen (s : List Char) : (widen s).length = s.length := by
  fun_induction widen s with
  | case1 rest ih => simp [ih]
  | case2 c rest _ ih => simp [ih]
  | case3 => rfl

theorem utf8ByteSize_ofList_cons (c : Char) (s : List Char) :
    (String.ofList (c :: s)).utf8ByteSize = c.utf8Size + (String.ofList s).utf8ByteSize := by
  rw [String.ofList_cons, String.utf8ByteSize_append, String.utf8ByteSize_singleton]

theorem utf8ByteSize_widen (s : List Char) :
    (String.ofList (widen s)).utf8ByteSize = (String.ofList s).utf8ByteSize := by
  fun_induction widen s with
  | case1 rest ih =>
    simp only [utf8ByteSize_ofList_cons, ih]
    rfl
  | case2 c rest _ ih => simp only [utf8ByteSize_ofList_cons, ih]
  | case3 => rfl

theorem exists_of_widen_eq_cons {c : Char} (h : widen s = c :: t) (hc : c ≠ 'B') :
    ∃ r, s = c :: r ∧ widen r = t := by
  rw [widen.eq_def] at h
  split at h
  · exact absurd (List.cons.inj h).1.symm hc
  · obtain ⟨rfl, rfl⟩ := List.cons.inj h
    exact ⟨_, rfl, rfl⟩
  · cases h

theorem not_prefix_cons {c : Char} {rest : List Char}
    (h : ∀ rest', c = 'B' → rest = 'W' :: '1' :: '2' :: '5' :: rest' → False) :
    ¬ narrowName <+: c :: rest := by
  rintro ⟨rest', heq⟩
  obtain ⟨hfirst, htail⟩ := List.cons.inj heq
  exact h rest' hfirst.symm htail.symm

theorem widen_eq_cons {c : Char} {rest : List Char} (h : ¬ narrowName <+: c :: rest) :
    widen (c :: rest) = c :: widen rest := by
  rw [widen]
  rintro rest' rfl rfl
  exact h ⟨rest', rfl⟩

theorem not_prefix_widen (s : List Char) : ¬ narrowName <+: widen s := by
  rintro ⟨t, ht⟩
  by_cases hs : narrowName <+: s
  · obtain ⟨rest, rfl⟩ := hs
    exact absurd ht (by simp [narrowName, widen])
  · cases s with
    | nil => cases ht
    | cons c rest =>
      rw [widen_eq_cons hs] at ht
      -- no mention begins at the letters that follow, so they stood there before
      obtain ⟨rfl, h₁⟩ := List.cons.inj ht
      obtain ⟨r₁, rfl, h₂⟩ := exists_of_widen_eq_cons h₁.symm (by decide)
      obtain ⟨r₂, rfl, h₃⟩ := exists_of_widen_eq_cons h₂ (by decide)
      obtain ⟨r₃, rfl, h₄⟩ := exists_of_widen_eq_cons h₃ (by decide)
      obtain ⟨r₄, rfl, -⟩ := exists_of_widen_eq_cons h₄ (by decide)
      exact hs ⟨r₄, rfl⟩

theorem not_infix_cons {c : Char} (hc : c ≠ 'B') (h : ¬ narrowName <:+: s) :
    ¬ narrowName <:+: c :: s := by
  rw [List.infix_cons_iff, not_or]
  exact ⟨not_prefix_cons fun _ hB _ => hc hB, h⟩

theorem not_infix_widen (s : List Char) : ¬ narrowName <:+: widen s := by
  fun_induction widen s with
  | case1 rest ih =>
    have hhead := not_prefix_widen ('B' :: 'W' :: '1' :: '2' :: '5' :: rest)
    rw [widen] at hhead
    rw [List.infix_cons_iff, not_or]
    refine ⟨hhead, not_infix_cons ?_ (not_infix_cons ?_ (not_infix_cons ?_ (not_infix_cons ?_ ih)))⟩
    all_goals decide
  | case2 c rest hc ih =>
    have hhead := not_prefix_widen (c :: rest)
    rw [widen_eq_cons (not_prefix_cons hc)] at hhead
    rw [List.infix_cons_iff, not_or]
    exact ⟨hhead, ih⟩
  | case3 => decide

theorem widen_eq_self (h : ¬ narrowName <:+: s) : widen s = s := by
  induction s with
  | nil => rfl
  | cons c rest ih =>
    rw [List.infix_cons_iff, not_or] at h
    rw [widen_eq_cons h.1, ih h.2]

theorem widen_widen (s : List Char) : widen (widen s) = widen s :=
  widen_eq_self (not_infix_widen s)

theorem prefix_drop_widen (s : List Char) (i : Nat) (h : narrowName <+: s.drop i) :
    wideName <+: (widen s).drop i := by
  fun_induction widen s generalizing i with
  | case1 rest ih =>
    match i with
    | 0 => exact ⟨widen rest, rfl⟩
    | 1 | 2 | 3 | 4 => simp [narrowName] at h
    | n + 5 => exact ih n h
  | case2 c rest hc ih =>
    cases i with
    | zero => exact absurd h (not_prefix_cons hc)
    | succ n => exact ih n h
  | case3 => simp [narrowName] at h

theorem getElem?_widen (s : List Char) (i : Nat)
    (h : ∀ j ≤ i, i < j + 5 → ¬ narrowName <+: s.drop j) : (widen s)[i]? = s[i]? := by
  fun_induction widen s generalizing i with
  | case1 rest ih =>
    by_cases hi : i < 5
    · exact absurd ⟨rest, rfl⟩ (h 0 (Nat.zero_le i) hi)
    · obtain ⟨n, rfl⟩ := Nat.exists_eq_add_of_le' (Nat.le_of_not_lt hi)
      exact ih n fun j hj hn => h (j + 5) (by omega) (by omega)
  | case2 c rest _ ih =>
    cases i with
    | zero => rfl
    | succ n => exact ih n fun j hj hn => h (j + 1) (by omega) (by omega)
  | case3 => rfl

/-- A data rate as it is taken over, character by character. -/
structure Widened (s t : String) : Prop where
  length : t.length = s.length
  size : t.utf8ByteSize = s.utf8ByteSize
  clean : ¬ narrowName <:+: t.toList
  widened (i : Nat) : narrowName <+: s.toList.drop i → wideName <+: t.toList.drop i
  kept (i : Nat) : (∀ j ≤ i, i < j + 5 → ¬ narrowName <+: s.toList.drop j) →
    t.toList[i]? = s.toList[i]?

theorem widened_ofList_widen (s : String) : Widened s (String.ofList (widen s.toList)) where
  length := by rw [String.length_ofList, length_widen, String.length_toList]
  size := by rw [utf8ByteSize_widen, String.ofList_toList]
  clean := by
    rw [String.toList_ofList]
    exact not_infix_widen s.toList
  widened i h := by
    rw [String.toList_ofList]
    exact prefix_drop_widen s.toList i h
  kept i h := by
    rw [String.toList_ofList]
    exact getElem?_widen s.toList i h

namespace Band

variable {b : Band} {base f g : UInt64}

theorem firstDataRate_of_wide (h : b.firstWindow = .wideChannels base) (s : String) :
    b.firstDataRate s = String.ofList (widen s.toList) := by
  rw [firstDataRate, h]

theorem firstDataRate_firstDataRate (b : Band) (s : String) :
    b.firstDataRate (b.firstDataRate s) = b.firstDataRate s := by
  cases h : b.firstWindow with
  | sameAsUplink => simp only [firstDataRate, h]
  | wideChannels base =>
    rw [firstDataRate_of_wide h, firstDataRate_of_wide h, String.toList_ofList, widen_widen]

theorem toNat_uplinkChannel (base f : UInt64) :
    (uplinkChannel base f).toNat = (f.toNat - base.toNat) / 200000 := by
  rw [uplinkChannel, UInt64.toNat_div]
  split
  · next hlt =>
    have hlt' : f.toNat < base.toNat := UInt64.lt_iff_toNat_lt.mp hlt
    rw [Nat.sub_eq_zero_of_le (Nat.le_of_lt hlt')]
    rfl
  · next hge =>
    rw [UInt64.toNat_sub_of_le _ _ (UInt64.not_lt.mp hge)]
    rfl

theorem toNat_firstFrequency (h : b.firstWindow = .wideChannels base) (f : UInt64) :
    (b.firstFrequency f).toNat =
      923300000 + 600000 * ((f.toNat - base.toNat) / 200000 % 8) := by
  have hfirst : b.firstFrequency f = 923300000 + uplinkChannel base f % 8 * 600000 := by
    rw [firstFrequency, h]
  rw [hfirst, UInt64.toNat_add, UInt64.toNat_mul, UInt64.toNat_mod, toNat_uplinkChannel]
  simp only [UInt64.reduceToNat]
  omega

theorem toNat_firstFrequency_add (h : b.firstWindow = .wideChannels base) (hbase : base ≤ f)
    {d : UInt64} {n : Nat} (hd : d.toNat = 200000 * n) (hsum : f.toNat + 200000 * n < UInt64.size) :
    (b.firstFrequency (f + d)).toNat =
      923300000 + 600000 * (((f.toNat - base.toNat) / 200000 + n) % 8) := by
  have hle : base.toNat ≤ f.toNat := UInt64.le_iff_toNat_le.mp hbase
  have hlater : (f + d).toNat = f.toNat + 200000 * n := by
    rw [UInt64.toNat_add, hd]
    exact Nat.mod_eq_of_lt hsum
  have hchannel : (f.toNat + 200000 * n - base.toNat) / 200000 =
      (f.toNat - base.toNat) / 200000 + n := by omega
  rw [toNat_firstFrequency h, hlater, hchannel]

structure TakesChannelsInTurn (b : Band) (base : UInt64) : Prop where
  frequency (f : UInt64) : (b.firstFrequency f).toNat =
    923300000 + 600000 * ((f.toNat - base.toNat) / 200000 % 8)
  wide (f : UInt64) : ∃ k < 8, (b.firstFrequency f).toNat = 923300000 + 600000 * k
  first (f : UInt64) : f.toNat < base.toNat + 200000 → (b.firstFrequency f).toNat = 923300000
  channel (f g : UInt64) : b.firstFrequency f = b.firstFrequency g ↔
    (f.toNat - base.toNat) / 200000 % 8 = (g.toNat - base.toNat) / 200000 % 8
  round (f : UInt64) : base ≤ f → f.toNat + 1600000 < UInt64.size →
    b.firstFrequency (f + 1600000) = b.firstFrequency f
  next (f : UInt64) (k : Nat) : base ≤ f → f.toNat + 200000 < UInt64.size → k < 8 →
    (b.firstFrequency f).toNat = 923300000 + 600000 * k →
      (b.firstFrequency (f + 200000)).toNat = 923300000 + 600000 * ((k + 1) % 8)

theorem takesChannelsInTurn (h : b.firstWindow = .wideChannels base) :
    b.TakesChannelsInTurn base where
  frequency := toNat_firstFrequency h
  wide f := ⟨_, Nat.mod_lt _ (by decide), toNat_firstFrequency h f⟩
  first f hf := by
    have hchannel : (f.toNat - base.toNat) / 200000 = 0 := Nat.div_eq_of_lt (by omega)
    rw [toNat_firstFrequency h, hchannel]
  channel f g := by
    rw [← UInt64.toNat_inj, toNat_firstFrequency h, toNat_firstFrequency h]
    omega
  round f hbase hsum := by
    rw [← UInt64.toNat_inj, toNat_firstFrequency_add h hbase (n := 8) rfl hsum,
      toNat_firstFrequency h, Nat.add_mod_right]
  next f k hbase hsum hk hf := by
    rw [toNat_firstFrequency h] at hf
    rw [toNat_firstFrequency_add h hbase (n := 1) rfl hsum]
    omega

/-- The plans with wide channels, with the first of their narrow ones. -/
def widePlans : List (String × UInt64) := [("US_902_928", 902300000), ("AU_915_928", 915200000)]

theorem mem_table_of_ofRegion {region : String} (h : ofRegion region = .ok b) :
    b ∈ table ∧ b.region = region := by
  rw [ofRegion] at h
  split at h
  · next band hfind =>
    obtain rfl := Except.ok.inj h
    exact ⟨List.mem_of_find?_eq_some hfind, by simpa using List.find?_some hfind⟩
  · cases h

theorem sameAsUplink_or_wide (h : b ∈ table) :
    b.firstWindow = .sameAsUplink ∨ ∃ base, (b.region, base) ∈ widePlans := by
  have hall : ∀ b ∈ table, b.firstWindow = .sameAsUplink ∨
      b.region ∈ widePlans.map Prod.fst := by decide
  refine (hall b h).imp_right fun hmem => ?_
  obtain ⟨⟨region, base⟩, hplan, rfl⟩ := List.mem_map.mp hmem
  exact ⟨base, hplan⟩

/-- The first receive window is legal after every uplink: on plans with wide channels it lies on
one of them, at the wide bandwidth, and on the others it repeats the uplink. -/
theorem first_window_is_legal :
    (∀ region base, (region, base) ∈ widePlans → ∃ b, ofRegion region = .ok b ∧
      b.TakesChannelsInTurn base ∧ ∀ s, Widened s (b.firstDataRate s) ∧
        b.firstDataRate (b.firstDataRate s) = b.firstDataRate s) ∧
    ∀ region b, ofRegion region = .ok b → (∀ base, (region, base) ∉ widePlans) →
      (∀ f, b.firstFrequency f = f) ∧ ∀ s, b.firstDataRate s = s := by
  constructor
  · intro region base hplan
    obtain ⟨b, hregion, hwindow⟩ : ∃ b, ofRegion region = .ok b ∧
        b.firstWindow = .wideChannels base := by
      simp only [widePlans, List.mem_cons, Prod.mk.injEq, List.not_mem_nil, or_false] at hplan
      rcases hplan with ⟨rfl, rfl⟩ | ⟨rfl, rfl⟩ <;> exact ⟨_, rfl, rfl⟩
    refine ⟨b, hregion, takesChannelsInTurn hwindow, fun s => ⟨?_, firstDataRate_firstDataRate b s⟩⟩
    rw [firstDataRate_of_wide hwindow]
    exact widened_ofList_widen s
  · intro region b hregion hplan
    obtain ⟨hmem, rfl⟩ := mem_table_of_ofRegion hregion
    rcases sameAsUplink_or_wide hmem with hwindow | ⟨base, hwide⟩
    · simp only [firstFrequency, firstDataRate, hwindow, implies_true, and_self]
    · exact absurd hwide (hplan base)

theorem first_window_is_legal_after_last_channel :
    (∃ b, ofRegion "US_902_928" = .ok b ∧ (b.firstFrequency 903700000).toNat = 927500000 ∧
      (b.firstFrequency (903700000 + 200000)).toNat = 923300000 ∧
      ¬ narrowName <:+: (b.firstDataRate "BWBW125125").toList) ∧
    ∃ b, ofRegion "EU_863_870" = .ok b ∧ b.firstFrequency 868100000 = 868100000 := by
  obtain ⟨b, hregion, hturn, hrate⟩ :=
    first_window_is_legal.1 "US_902_928" 902300000 (by decide)
  have hlast : (b.firstFrequency 903700000).toNat = 923300000 + 600000 * 7 := by
    rw [hturn.frequency]
    rfl
  have hnext := hturn.next 903700000 7 (by decide) (by decide) (by decide) hlast
  obtain ⟨hsame, -⟩ := first_window_is_legal.2 "EU_863_870" table[0] rfl (by simp [widePlans])
  exact ⟨⟨b, hregion, hlast, hnext, (hrate "BWBW125125").1.clean⟩,
    ⟨table[0], rfl, hsame 868100000⟩⟩

end Band

end LorawanRouting
