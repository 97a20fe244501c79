import LorawanRouting.Device.Stored
import LorawanRouting.Proofs.Identifier
import LorawanRouting.Proofs.Json
import LorawanRouting.Proofs.OrderedMaps
import LorawanRouting.Proofs.Rfc3339

/-!
Devices, their fields and the texts of their fields. Writing a field and reading it into another
device copies the field; reading a whole map of texts gives the device each of whose fields is
read from its own text.
-/

namespace LorawanRouting

namespace DeviceOptions

theorem toJson_eq (o : DeviceOptions) :
    o.toJson = String.ofList ('\x7b' :: Json.pairText "disable_f_cnt_check".toList
      (toString o.skipsCounterCheck).toList "uses_32bit_f_cnt".toList
      (toString o.usesLongCounters).toList) := Json.ofList_pairText rfl rfl rfl

theorem toJson_ne_empty (o : DeviceOptions) : o.toJson ≠ "" := by
  rw [toJson_eq]
  exact Json.ofList_cons_ne_empty _ _

theorem ofJson?_toJson (o : DeviceOptions) : ofJson? o.toJson = some o := by
  have hread : Json.read? o.toJson = some (.object
      [("disable_f_cnt_check".toList, .boolean o.skipsCounterCheck),
        ("uses_32bit_f_cnt".toList, .boolean o.usesLongCounters)]) := by
    rw [toJson_eq]
    exact Json.read?_pairText (by decide) (by decide) (Json.scalar_boolean _)
      (Json.scalar_boolean _)
  have hrecord : (Json.object [("disable_f_cnt_check".toList, .boolean o.skipsCounterCheck),
      ("uses_32bit_f_cnt".toList, .boolean o.usesLongCounters)]).record? keys =
      some [.boolean o.skipsCounterCheck, .boolean o.usesLongCounters] :=
    Json.record?_pair (by decide) (by decide) (by decide)
  rw [ofJson?, hread, Option.bind_eq_bind, Option.bind_some, hrecord]
  rfl

end DeviceOptions

namespace FrameTotals

theorem toJson_eq (t : FrameTotals) :
    t.toJson = String.ofList ('\x7b' :: Json.pairText "rx_frames".toList
      (Nat.toDigits 10 t.received.toNat) "tx_frames".toList
      (Nat.toDigits 10 t.sent.toNat)) := by
  have hdigits : ∀ n : Nat, (toString n).toList = Nat.toDigits 10 n := fun n => by simp
  rw [← hdigits, ← hdigits]
  exact Json.ofList_pairText rfl rfl rfl

theorem toJson_ne_empty (t : FrameTotals) : t.toJson ≠ "" := by
  rw [toJson_eq]
  exact Json.ofList_cons_ne_empty _ _

theorem count?_toDigits (n : UInt64) : count? (.number (Nat.toDigits 10 n.toNat)) = some n := by
  simp [count?, Json.natural?_toDigits, n.toNat_lt]

theorem ofJson?_toJson (t : FrameTotals) : ofJson? t.toJson = some t := by
  have hread : Json.read? t.toJson = some (.object
      [("rx_frames".toList, .number (Nat.toDigits 10 t.received.toNat)),
        ("tx_frames".toList, .number (Nat.toDigits 10 t.sent.toNat))]) := by
    rw [toJson_eq]
    exact Json.read?_pairText (by decide) (by decide) (Json.scalar_number _) (Json.scalar_number _)
  have hrecord : (Json.object [("rx_frames".toList, .number (Nat.toDigits 10 t.received.toNat)),
      ("tx_frames".toList, .number (Nat.toDigits 10 t.sent.toNat))]).record? keys =
      some [.number (Nat.toDigits 10 t.received.toNat),
        .number (Nat.toDigits 10 t.sent.toNat)] :=
    Json.record?_pair (by decide) (by decide) (by decide)
  rw [ofJson?, hread, Option.bind_eq_bind, Option.bind_some, hrecord]
  simp only [Option.bind_eq_bind, Option.bind_some, count?_toDigits]
  rfl

end FrameTotals

theorem Numeral.uint32?_toString (n : UInt32) : uint32? (toString n.toNat) = some n := by
  have hread := unsigned?_eq_some_iff.mpr (denotes_toString n.toNat)
  have hlt := n.toNat_lt
  rw [uint32?, below?, hread]
  simp [hlt]

theorem Numeral.toString_ne_empty (n : Nat) : toString n ≠ "" := by
  intro h
  have hdigits : (toString n).toList = [] := by rw [h]; rfl
  simp at hdigits

namespace DeviceField

theorem name_injective : Function.Injective name := by
  intro f g h
  cases f <;> cases g <;> first | rfl | exact absurd h (by decide)

theorem ofName?_eq_some {s : String} {f : DeviceField} : ofName? s = some f ↔ f.name = s := by
  constructor
  · intro h
    simpa using List.find?_some h
  · rintro rfl
    cases f <;> rfl

end DeviceField

namespace Device

def SameAt (d e : Device) : DeviceField → Prop
  | .dev => d.dev = e.dev
  | .app => d.app = e.app
  | .address => d.address = e.address
  | .sessionKey => d.sessionKey = e.sessionKey
  | .counterUp => d.counterUp = e.counterUp
  | .counterDown => d.counterDown = e.counterDown
  | .lastSeen => d.lastSeen = e.lastSeen
  | .options => d.options = e.options
  | .totals => d.totals = e.totals

variable {d e s t : Device} {f g : DeviceField}

theorem SameAt.refl (d : Device) (f : DeviceField) : SameAt d d f := by
  cases f <;> rfl

theorem SameAt.symm (h : SameAt d e f) : SameAt e d f := by
  cases f <;> exact Eq.symm h

theorem SameAt.trans (h : SameAt d e f) (h' : SameAt e s f) : SameAt d s f := by
  cases f <;> exact Eq.trans h h'

theorem ext_sameAt (h : ∀ f, SameAt d e f) : d = e := by
  cases d
  cases e
  have h₁ := h .dev
  have h₂ := h .app
  have h₃ := h .address
  have h₄ := h .sessionKey
  have h₅ := h .counterUp
  have h₆ := h .counterDown
  have h₇ := h .lastSeen
  have h₈ := h .options
  have h₉ := h .totals
  simp_all [SameAt]

theorem sameAt_copyField (d s : Device) (f : DeviceField) : SameAt (d.copyField s f) s f := by
  cases f <;> rfl

theorem sameAt_copyField_of_ne (h : g ≠ f) : SameAt (d.copyField s f) d g := by
  cases f <;> cases g <;> first | rfl | exact absurd rfl h

theorem sameAt_copyFields (d s : Device) (fs : List DeviceField) (f : DeviceField) :
    SameAt (d.copyFields s fs) (if f ∈ fs then s else d) f := by
  induction fs generalizing d with
  | nil => exact SameAt.refl d f
  | cons g fs ih =>
    have hrest := ih (d.copyField s g)
    rw [copyFields, List.foldl_cons, ← copyFields]
    by_cases hfs : f ∈ fs
    · simpa [hfs] using hrest
    · rw [if_neg hfs] at hrest
      by_cases hfg : f = g
      · subst hfg
        simpa using hrest.trans (sameAt_copyField d s f)
      · simpa [hfg, hfs] using hrest.trans (sameAt_copyField_of_ne hfg)

theorem copyField_eq_self (h : SameAt d s f) : d.copyField s f = d := by
  apply ext_sameAt
  intro g
  by_cases hg : g = f
  · subst hg
    exact (sameAt_copyField d s g).trans h.symm
  · exact sameAt_copyField_of_ne hg

theorem copyField_congr (h : SameAt s t f) : d.copyField s f = d.copyField t f := by
  apply ext_sameAt
  intro g
  by_cases hg : g = f
  · subst hg
    exact ((sameAt_copyField d s g).trans h).trans (sameAt_copyField d t g).symm
  · exact (sameAt_copyField_of_ne hg).trans (sameAt_copyField_of_ne hg).symm

theorem readField?_eq_map (d : Device) (value : String) (f : DeviceField) :
    d.readField? value f = (blank.readField? value f).map fun b => d.copyField b f := by
  cases f <;> simp [readField?, copyField, Option.map_map, Function.comp_def]

theorem decodeField_eq_map (h : SameAt d blank f) (value : String) :
    d.decodeField f value = (blank.decodeField f value).map fun b => d.copyField b f := by
  rw [decodeField, decodeField, readField?_eq_map]
  by_cases hv : value = ""
  · simp [hv, Except.map, copyField_eq_self h]
  · cases blank.readField? value f <;> simp [hv, Except.map]

theorem decodeField_blank_eq (value : String) (f : DeviceField) {b : Device}
    (h : blank.decodeField f value = .ok b) : b = blank.copyField b f := by
  have hmap := decodeField_eq_map (SameAt.refl blank f) value
  rw [h] at hmap
  exact Except.ok.inj hmap

def Reads (value : String) (f : DeviceField) (d : Device) : Prop :=
  blank.decodeField f value = .ok (blank.copyField d f)

theorem reads_iff_sameAt {value : String} {b : Device} (h : blank.decodeField f value = .ok b) :
    Reads value f d ↔ SameAt b d f := by
  have hb := decodeField_blank_eq value f h
  rw [Reads, h]
  constructor
  · intro hd
    rw [Except.ok.inj hd]
    exact sameAt_copyField blank d f
  · intro hs
    rw [hb, copyField_congr hs]

theorem reads_empty_iff : Reads "" f d ↔ SameAt d blank f := by
  have hempty : blank.decodeField f "" = .ok blank := by simp [decodeField]
  rw [reads_iff_sameAt hempty]
  exact ⟨SameAt.symm, SameAt.symm⟩

theorem Reads.congr {value : String} (h : Reads value f d) (hs : SameAt d e f) :
    Reads value f e := by
  rw [Reads, ← copyField_congr hs]
  exact h

/-- A field can be stored if its text reads back: a time needs a year that is written plainly. -/
def Storable (d : Device) (f : DeviceField) : Prop :=
  f = .lastSeen → ∀ t ∈ d.lastSeen, Rfc3339.HasPlainYear t

theorem reads_of_readField? {value : String} (hv : value ≠ "")
    (h : blank.readField? value f = some (blank.copyField d f)) : Reads value f d := by
  simp [Reads, decodeField, hv, h]

theorem reads_encodeField (h : Storable d f) : Reads (d.encodeField f) f d := by
  cases f with
  | dev | app | sessionKey =>
    exact reads_of_readField? (Identifier.text_ne_empty _)
      (by simp [readField?, encodeField, Identifier.ofText?_text, copyField])
  | address =>
    by_cases hz : d.address.isZero
    · simp only [encodeField, hz, if_true]
      exact reads_empty_iff.mpr ((Identifier.isZero_iff _).mp hz)
    · simp only [encodeField, hz]
      exact reads_of_readField? (Identifier.text_ne_empty _)
        (by simp [readField?, Identifier.ofText?_text, copyField])
  | counterUp | counterDown =>
    exact reads_of_readField? (Numeral.toString_ne_empty _)
      (by simp only [readField?, encodeField, Numeral.uint32?_toString, copyField, Option.map_some])
  | lastSeen =>
    cases hseen : d.lastSeen with
    | none =>
      simp only [encodeField, hseen]
      exact reads_empty_iff.mpr hseen
    | some t =>
      have ht := h rfl t hseen
      simp only [encodeField, hseen]
      exact reads_of_readField? (Rfc3339.write_ne_empty t)
        (by simp [readField?, Rfc3339.read?_write, ht, copyField, hseen])
  | options =>
    exact reads_of_readField? (DeviceOptions.toJson_ne_empty _)
      (by simp [readField?, encodeField, DeviceOptions.ofJson?_toJson, copyField])
  | totals =>
    exact reads_of_readField? (FrameTotals.toJson_ne_empty _)
      (by simp [readField?, encodeField, FrameTotals.ofJson?_toJson, copyField])

end Device

end LorawanRouting
