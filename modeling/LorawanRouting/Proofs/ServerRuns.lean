import LorawanRouting.Proofs.NetworkRuns
import Mathlib.Data.List.DropRight

/-!
Runs of one broker, told by what they do to its devices: some turns grant a device an address, some count
a frame of the first device that holds its address, and all others leave the devices alone. What was
granted and counted tells the records of the broker: the address by the latest grant, the counters by the
frames that were counted since.
-/

namespace LorawanRouting
open Network (ServerCall)

def Network.ServerCall.SparesDevices : ServerCall → Prop
  | .device _ => False
  | _ => True

namespace Server

variable {δ : Type} [DeviceStore δ]

/-- What a broker gets to do: to answer a request, or something that is done at it by hand. -/
inductive Turn
  | activate (request : Activation)
  | uplink (m : RoutedUplink)
  | call (c : ServerCall)

namespace Turn

def run (s : Server δ) : Turn → Server δ
  | .activate request => (s.activate request).2
  | .uplink m => (s.uplink m).2
  | .call c => c.run s

def SparesDevices : Turn → Prop
  | .call c => c.SparesDevices
  | _ => True

def isUplink : Turn → Bool
  | .uplink _ => true
  | _ => false

end Turn

/-- What a turn comes to for the devices of a broker. -/
inductive Deed
  | granted (key : DeviceKey)
  | counted (key : DeviceKey)
  deriving DecidableEq

namespace Deed

def isGrant : Deed → Bool
  | .granted _ => true
  | .counted _ => false

def grants (deeds : List Deed) : Nat := deeds.countP isGrant

/-- The number of the latest grant to a device, all grants being numbered from one; zero if there is none. -/
def latestGrant (deeds : List Deed) (key : DeviceKey) : Nat :=
  grants (deeds.rdropWhile fun deed => deed ≠ .granted key)

def countedSinceGrant (deeds : List Deed) (key : DeviceKey) : Nat :=
  (deeds.rtakeWhile fun deed => deed ≠ .granted key).count (.counted key)

/-- The frames that were counted for a device since its first grant, which created its record. -/
def countedSinceCreation (deeds : List Deed) (key : DeviceKey) : Nat :=
  (deeds.dropWhile fun deed => deed ≠ .granted key).count (.counted key)

end Deed

/-- The device that an uplink is attributed to, the first holder of its address. -/
def holder? (s : Server δ) (m : RoutedUplink) : Option Device :=
  (frameAddress? m.payload).bind fun address =>
    match DeviceStore.byAddress s.devices address with
    | .ok ds => ds.head?
    | .error _ => none

/-- Told from the broker before the turn alone; what becomes of an uplink afterwards plays no part. -/
def deed? (s : Server δ) : Turn → Option Deed
  | .activate request =>
    match ApplicationStore.get s.broker.applications request.app with
    | .ok _ => some (.granted ⟨request.app, request.dev⟩)
    | .error _ => none
  | .uplink m => (s.holder? m).map fun d => .counted d.key
  | .call _ => none

def after (s : Server δ) (turns : List Turn) : Server δ := turns.foldl Turn.run s

def deeds (s : Server δ) : List Turn → List Deed
  | [] => []
  | turn :: turns => (s.deed? turn).toList ++ deeds (turn.run s) turns

theorem after_append (s : Server δ) (turns others : List Turn) :
    s.after (turns ++ others) = (s.after turns).after others :=
  List.foldl_append

theorem deeds_append (s : Server δ) (turns others : List Turn) :
    s.deeds (turns ++ others) = s.deeds turns ++ (s.after turns).deeds others := by
  induction turns generalizing s with
  | nil => rfl
  | cons turn turns ih =>
    simp only [List.cons_append, deeds, ih, List.append_assoc]
    rfl

theorem after_concat (s : Server δ) (turns : List Turn) (turn : Turn) :
    s.after (turns ++ [turn]) = turn.run (s.after turns) :=
  s.after_append turns [turn]

theorem deeds_concat (s : Server δ) (turns : List Turn) (turn : Turn) :
    s.deeds (turns ++ [turn]) = s.deeds turns ++ ((s.after turns).deed? turn).toList := by
  simp only [deeds_append, deeds, List.append_nil]

theorem count_deeds_le (s : Server δ) (turns : List Turn) (key : DeviceKey) :
    (s.deeds turns).count (.counted key) ≤ turns.countP Turn.isUplink := by
  induction turns generalizing s with
  | nil => exact Nat.le_refl 0
  | cons turn turns ih =>
    have hturn : (s.deed? turn).toList.count (.counted key) ≤ if turn.isUplink then 1 else 0 := by
      cases turn with
      | activate request =>
        cases ha : ApplicationStore.get s.broker.applications request.app <;> simp [deed?, ha]
      | uplink m => exact List.count_le_length.trans (Option.length_toList_le)
      | call c => exact Nat.le_refl 0
    rw [deeds, List.count_append, List.countP_cons, Nat.add_comm]
    exact Nat.add_le_add (ih (turn.run s)) hturn

namespace Deed

variable {deeds : List Deed} {key : DeviceKey} {deed : Deed}

theorem granted_ne_counted (key other : DeviceKey) : granted key ≠ counted other := by
  simp

theorem grants_concat (deeds : List Deed) (deed : Deed) :
    grants (deeds ++ [deed]) = grants deeds + if deed.isGrant then 1 else 0 := by
  rw [grants, List.countP_append, List.countP_singleton, grants]

theorem latestGrant_concat (deeds : List Deed) (deed : Deed) (key : DeviceKey) :
    latestGrant (deeds ++ [deed]) key =
      if deed = .granted key then grants deeds + 1 else latestGrant deeds key := by
  rw [latestGrant, List.rdropWhile_concat]
  by_cases h : deed = .granted key
  · simp [h, grants_concat, isGrant]
  · simp [h, latestGrant]

theorem countedSinceGrant_concat (deeds : List Deed) (deed : Deed) (key : DeviceKey) :
    countedSinceGrant (deeds ++ [deed]) key =
      if deed = .granted key then 0
      else countedSinceGrant deeds key + if deed = .counted key then 1 else 0 := by
  rw [countedSinceGrant, List.rtakeWhile_concat]
  by_cases h : deed = .granted key
  · simp [h]
  · simp [h, countedSinceGrant, List.count_singleton]

theorem dropWhile_eq_nil (h : .granted key ∉ deeds) :
    deeds.dropWhile (fun deed => deed ≠ .granted key) = [] := by
  rw [List.dropWhile_eq_nil_iff]
  intro deed hdeed
  simp only [ne_eq, decide_not, Bool.not_eq_true', decide_eq_false_iff_not]
  rintro rfl
  exact h hdeed

theorem countedSinceCreation_of_not_granted (h : .granted key ∉ deeds) (deed : Deed) :
    countedSinceCreation (deeds ++ [deed]) key = 0 := by
  rw [countedSinceCreation, List.dropWhile_append, dropWhile_eq_nil h]
  by_cases hdeed : deed = .granted key <;> simp [hdeed]

theorem countedSinceCreation_of_granted (h : .granted key ∈ deeds) (deed : Deed) :
    countedSinceCreation (deeds ++ [deed]) key =
      countedSinceCreation deeds key + if deed = .counted key then 1 else 0 := by
  have hsome : deeds.dropWhile (fun deed => deed ≠ .granted key) ≠ [] := by
    intro hnil
    simpa using List.dropWhile_eq_nil_iff.mp hnil _ h
  rw [countedSinceCreation, List.dropWhile_append, if_neg (by simpa using hsome),
    List.count_append, List.count_singleton, countedSinceCreation]
  simp only [beq_iff_eq]

theorem countedSinceGrant_le (deeds : List Deed) (key : DeviceKey) :
    countedSinceGrant deeds key ≤ deeds.count (.counted key) :=
  (List.rtakeWhile_suffix _ _).sublist.count_le _

theorem countedSinceCreation_le (deeds : List Deed) (key : DeviceKey) :
    countedSinceCreation deeds key ≤ deeds.count (.counted key) :=
  (List.dropWhile_suffix _).sublist.count_le _

theorem latestGrant_le (deeds : List Deed) (key : DeviceKey) : latestGrant deeds key ≤ grants deeds :=
  (List.rdropWhile_prefix _ _).sublist.countP_le

theorem latestGrant_pos (h : .granted key ∈ deeds) : 0 < latestGrant deeds key := by
  induction deeds using List.reverseRecOn with
  | nil => simp at h
  | append_singleton deeds deed ih =>
    rw [latestGrant_concat]
    split
    case isTrue => exact Nat.succ_pos _
    case isFalse hdeed => exact ih (by simpa [Ne.symm hdeed] using h)

/-- No grant goes to two devices. -/
theorem eq_of_latestGrant_eq {other : DeviceKey} (h : .granted key ∈ deeds)
    (hsame : latestGrant deeds key = latestGrant deeds other) : key = other := by
  induction deeds using List.reverseRecOn with
  | nil => simp at h
  | append_singleton deeds deed ih =>
    have hkey := latestGrant_le deeds key
    have hother := latestGrant_le deeds other
    rw [latestGrant_concat, latestGrant_concat] at hsame
    split at hsame <;> split at hsame
    case isTrue.isTrue h₁ h₂ => exact Deed.granted.inj (h₁.symm.trans h₂)
    case isTrue.isFalse => omega
    case isFalse.isTrue => omega
    case isFalse.isFalse hdeed _ => exact ih (by simpa [Ne.symm hdeed] using h) hsame

end Deed

theorem uplink_of_holder (s : Server δ) (m : RoutedUplink) :
    (s.uplink m).2.firstByte = s.firstByte ∧ (s.uplink m).2.nextByte = s.nextByte ∧
      (s.uplink m).2.devices = (s.holder? m).elim s.devices fun d =>
        if HasRoom d then (s.counting d).devices else s.devices := by
  rw [uplink, holder?]
  cases frameAddress? m.payload with
  | none => exact ⟨rfl, rfl, rfl⟩
  | some address =>
    dsimp only [Option.bind_some]
    cases DeviceStore.byAddress s.devices address with
    | error e => exact ⟨rfl, rfl, rfl⟩
    | ok ds =>
      cases ds with
      | nil => exact ⟨rfl, rfl, rfl⟩
      | cons holder others =>
        dsimp only [List.head?_cons, Option.elim_some]
        split
        case isFalse => exact ⟨rfl, rfl, rfl⟩
        case isTrue =>
          split
          case h_1 => exact ⟨rfl, rfl, rfl⟩
          case h_2 => split <;> exact ⟨rfl, rfl, rfl⟩

theorem firstByte_run (s : Server δ) (turn : Turn) : (turn.run s).firstByte = s.firstByte := by
  cases turn with
  | activate request =>
    rw [Turn.run]
    rcases s.state_activate request with h | h <;> rw [h]
    rfl
  | uplink m => exact (s.uplink_of_holder m).1
  | call c => cases c <;> rfl

/-- The first device, in the order of the keys, that is stored with an address. -/
structure FirstHolder (s : Server δ) (address : DevAddr) (d : Device) : Prop where
  stored : DeviceStore.get s.devices d.key = .ok d
  holds : d.address = address
  activated : ¬ address.isZero
  first : ∀ e, DeviceStore.get s.devices e.key = .ok e → e.address = address → e ≠ d →
    compare d.key e.key = .lt

theorem firstByte_after (s : Server δ) (turns : List Turn) : (s.after turns).firstByte = s.firstByte := by
  induction turns using List.reverseRecOn with
  | nil => rfl
  | append_singleton turns turn ih => rw [after_concat, firstByte_run, ih]

variable {s s' : Server Devices} {t : DeviceTable} {deeds : List Deed}

theorem holder?_eq (h : s.devices.Shows t) (m : RoutedUplink) :
    s.holder? m = (frameAddress? m.payload).bind fun address => (t.holders address).head? := by
  rw [holder?]
  congr 1
  funext address
  rw [Devices.simulation.byAddress address h]
  rfl

theorem holder?_eq_some_iff (h : s.devices.Shows t) {m : RoutedUplink} {d : Device} :
    s.holder? m = some d ↔
      ∃ address, frameAddress? m.payload = some address ∧ s.FirstHolder address d := by
  rw [holder?_eq h, Option.bind_eq_some_iff]
  refine exists_congr fun address => and_congr_right fun _ => ?_
  have hmem : ∀ {e}, e ∈ t.holders address ↔
      DeviceStore.get s.devices e.key = .ok e ∧ e.address = address ∧ ¬ address.isZero := by
    intro e
    rw [h.keyed.mem_holders, get_eq_ok_iff h]
  have hascending := h.keyed.ascending_holders address
  constructor
  · intro hhead
    obtain ⟨others, hlist⟩ := List.head?_eq_some_iff.mp hhead
    obtain ⟨hstored, hholds, hzero⟩ := hmem.mp (hlist ▸ List.mem_cons_self)
    refine ⟨hstored, hholds, hzero, fun e he haddress hne => ?_⟩
    have hother := hmem.mpr ⟨he, haddress, hzero⟩
    rw [hlist] at hother hascending
    exact List.rel_of_pairwise_cons hascending ((List.mem_cons.mp hother).resolve_left hne)
  · intro hd
    have hheld := hmem.mpr ⟨hd.stored, hd.holds, hd.activated⟩
    cases hlist : t.holders address with
    | nil => simp [hlist] at hheld
    | cons e others =>
      rw [hlist] at hheld hascending
      obtain ⟨hstored, hholds, -⟩ := hmem.mp (hlist ▸ List.mem_cons_self : e ∈ t.holders address)
      rcases List.mem_cons.mp hheld with rfl | hlater
      · rfl
      · exfalso
        have hafter : compare e.key d.key = .lt := List.rel_of_pairwise_cons hascending hlater
        have hbefore : compare d.key e.key = .lt := by
          refine hd.first e hstored hholds ?_
          rintro rfl
          simp [Std.ReflCmp.compare_self] at hafter
        rw [Std.OrientedCmp.gt_of_lt hbefore] at hafter
        cases hafter

theorem exists_counted (h : s.devices.Shows t) {d : Device} (hd : t.devices[d.key]? = some d) :
    ∃ t', (if HasRoom d then (s.counting d).devices else s.devices).Shows t' ∧
      ∀ key, t'.devices[key]? =
        if key = d.key ∧ HasRoom d then some (countFrame d) else t.devices[key]? := by
  by_cases hroom : HasRoom d
  case neg =>
    refine ⟨t, ?_, fun key => (if_neg fun hboth => hroom hboth.2).symm⟩
    rw [if_neg hroom]
    exact h
  refine ⟨t.set (countFrame d) [.counterUp, .totals], ?_, fun key => ?_⟩
  · rw [if_pos hroom]
    exact (shows_counting h d).2
  · have hkey : (countFrame d).key = d.key := rfl
    rw [DeviceTable.getElem?_set, DeviceTable.device, hkey]
    by_cases hsame : d.key = key
    · subst hsame
      rw [if_pos rfl, if_pos ⟨rfl, hroom⟩, hd]
      rfl
    · rw [if_neg hsame, if_neg fun hboth => hsame hboth.1.symm]

theorem get_uplink_of_holder (h : s.devices.Shows t) {m : RoutedUplink} {d : Device}
    (hd : s.holder? m = some d) (key : DeviceKey) : DeviceStore.get (s.uplink m).2.devices key =
      if key = d.key ∧ HasRoom d then .ok (countFrame d) else DeviceStore.get s.devices key := by
  have hdevices := (s.uplink_of_holder m).2.2
  rw [hd, Option.elim_some] at hdevices
  obtain ⟨address, -, hfirst⟩ := (holder?_eq_some_iff h).mp hd
  obtain ⟨t', ht', hget⟩ := exists_counted h ((get_eq_ok_iff h).mp hfirst.stored)
  rw [hdevices, Devices.simulation.get key ht', Devices.simulation.get key h]
  simp only [DeviceStore.get, hget]
  by_cases hcounted : key = d.key ∧ HasRoom d
  · rw [if_pos hcounted, if_pos hcounted]
  · rw [if_neg hcounted, if_neg hcounted]

theorem run_cases (h : s.devices.Shows t) {turn : Turn} (hturn : turn.SparesDevices) :
    (s.deed? turn = none ∧ (turn.run s).devices = s.devices ∧ (turn.run s).nextByte = s.nextByte) ∨
    (∃ key, s.deed? turn = some (.granted key) ∧
      (turn.run s).devices = (s.granting key).devices ∧ (turn.run s).nextByte = s.nextByte + 1) ∨
    ∃ d, s.deed? turn = some (.counted d.key) ∧ t.devices[d.key]? = some d ∧
      (turn.run s).devices = (if HasRoom d then (s.counting d).devices else s.devices) ∧
      (turn.run s).nextByte = s.nextByte := by
  cases turn with
  | activate request =>
    cases ha : ApplicationStore.get s.broker.applications request.app with
    | error e =>
      refine .inl ⟨by simp only [deed?, ha], ?_⟩
      rw [Turn.run, activate_of_unknown ha]
      exact ⟨rfl, rfl⟩
    | ok a =>
      refine .inr (.inl ⟨⟨request.app, request.dev⟩, by simp only [deed?, ha], ?_⟩)
      rw [Turn.run, state_activate_of_known ha]
      exact ⟨rfl, rfl⟩
  | uplink m =>
    obtain ⟨-, hnext, hdevices⟩ := s.uplink_of_holder m
    cases hholder : s.holder? m with
    | none =>
      rw [hholder] at hdevices
      exact .inl ⟨by simp only [deed?, hholder, Option.map_none], hdevices, hnext⟩
    | some d =>
      rw [hholder] at hdevices
      obtain ⟨address, -, hfirst⟩ := (holder?_eq_some_iff h).mp hholder
      exact .inr (.inr ⟨d, by simp only [deed?, hholder, Option.map_some],
        (get_eq_ok_iff h).mp hfirst.stored, hdevices, hnext⟩)
  | call c =>
    cases c with
    | register | handler => exact .inl ⟨rfl, rfl, rfl⟩
    | device c => exact hturn.elim

def grantedAddress (firstByte : UInt8) (number : Nat) : DevAddr :=
  ⟨[firstByte, 0, 0, .ofNat number], rfl⟩

/-- What the deeds of a broker say of the record of a device. The counters tell as long as neither can
have been full. -/
structure Accounts (firstByte : UInt8) (deeds : List Deed) (key : DeviceKey) (d : Device) : Prop where
  granted : .granted key ∈ deeds
  address : d.address = grantedAddress firstByte (Deed.latestGrant deeds key)
  counters : deeds.count (.counted key) < 2 ^ 32 →
    d.counterUp.toNat = Deed.countedSinceGrant deeds key ∧
      d.totals.received.toNat = Deed.countedSinceCreation deeds key

theorem Accounts.hasRoom {firstByte : UInt8} {key : DeviceKey} {d : Device}
    (h : Accounts firstByte deeds key d) (hcount : deeds.count (.counted key) + 1 < 2 ^ 32) :
    HasRoom d := by
  obtain ⟨hup, hreceived⟩ := h.counters (by omega)
  have hsince := Deed.countedSinceGrant_le deeds key
  have htotal := Deed.countedSinceCreation_le deeds key
  have hsize : UInt32.size < UInt64.size := by decide
  change deeds.count (.counted key) + 1 < UInt32.size at hcount
  constructor <;> omega

structure Told (s : Server Devices) (deeds : List Deed) (t : DeviceTable) : Prop where
  shows : s.devices.Shows t
  next : s.nextByte = .ofNat (Deed.grants deeds + 1)
  absent : ∀ {key : DeviceKey}, t.devices[key]? = none → .granted key ∉ deeds
  accounts : ∀ {key : DeviceKey} {d}, t.devices[key]? = some d → Accounts s.firstByte deeds key d

theorem Told.exists_get_iff (h : s.Told deeds t) (key : DeviceKey) :
    (∃ d, DeviceStore.get s.devices key = .ok d) ↔ .granted key ∈ deeds := by
  constructor
  · intro hstored
    obtain ⟨d, hd⟩ := hstored
    exact (h.accounts ((get_eq_ok_iff h.shows).mp hd)).granted
  · intro hgranted
    cases hd : t.devices[key]? with
    | none => exact absurd hgranted (h.absent hd)
    | some d => exact ⟨d, (get_eq_ok_iff h.shows).mpr hd⟩

theorem Told.accounts_of_get (h : s.Told deeds t) {key : DeviceKey} {d : Device}
    (hd : DeviceStore.get s.devices key = .ok d) : Accounts s.firstByte deeds key d :=
  h.accounts ((get_eq_ok_iff h.shows).mp hd)

/-- A broker that has granted nothing yet, with a store that refuses nothing and has no devices. -/
structure Fresh (s : Server Devices) : Prop where
  empty : s.devices.Shows .empty
  next : s.nextByte = 1

theorem Fresh.told (h : s.Fresh) : s.Told [] .empty where
  shows := h.empty
  next := h.next
  absent _ := by simp
  accounts hd := by simp [DeviceTable.empty] at hd

theorem Accounts.of_other {firstByte : UInt8} {key : DeviceKey} {d : Device}
    (h : Accounts firstByte deeds key d) {deed : Deed} (hgrant : deed ≠ .granted key)
    (hcount : deed ≠ .counted key) : Accounts firstByte (deeds ++ [deed]) key d where
  granted := by simp [h.granted]
  address := by rw [h.address, Deed.latestGrant_concat, if_neg hgrant]
  counters hfew := by
    rw [List.count_append, List.count_singleton, if_neg (by simpa using hcount), Nat.add_zero] at hfew
    rw [Deed.countedSinceGrant_concat, Deed.countedSinceCreation_of_granted h.granted, if_neg hgrant,
      if_neg hcount]
    exact h.counters hfew

theorem Accounts.counted {firstByte : UInt8} {key : DeviceKey} {d : Device}
    (h : Accounts firstByte deeds key d) :
    Accounts firstByte (deeds ++ [.counted key]) key (if HasRoom d then countFrame d else d) where
  granted := by simp [h.granted]
  address := by
    rw [Deed.latestGrant_concat, if_neg (Deed.granted_ne_counted _ _).symm, ← h.address]
    split <;> rfl
  counters hfew := by
    rw [List.count_append, List.count_singleton, if_pos (by simp)] at hfew
    have hroom := h.hasRoom hfew
    obtain ⟨hup, hreceived⟩ := h.counters (by omega)
    rw [if_pos hroom, Deed.countedSinceGrant_concat, if_neg (Deed.granted_ne_counted _ _).symm,
      Deed.countedSinceCreation_of_granted h.granted, if_pos rfl, ← hup, ← hreceived]
    exact ⟨(UInt32.toNat_add _ _).trans (Nat.mod_eq_of_lt hroom.1),
      (UInt64.toNat_add _ _).trans (Nat.mod_eq_of_lt hroom.2)⟩

theorem Told.accounts_granted (h : s.Told deeds t) (key : DeviceKey) :
    Accounts s.firstByte (deeds ++ [.granted key]) key
      ((t.device key).copyFields (Device.activated key (s.addressOf s.nextByte) sessionKey)
        (DeviceField.orAll DeviceField.activation)) where
  granted := by simp
  address := by
    rw [Deed.latestGrant_concat, if_pos rfl, grantedAddress, ← h.next]
    rfl
  counters hfew := by
    rw [List.count_append, List.count_singleton, if_neg (by simp), Nat.add_zero] at hfew
    rw [Deed.countedSinceGrant_concat, if_pos rfl]
    refine ⟨rfl, ?_⟩
    change (t.device key).totals.received.toNat = _
    rw [DeviceTable.device]
    cases hd : t.devices[key]? with
    | none =>
      rw [Deed.countedSinceCreation_of_not_granted (h.absent hd)]
      rfl
    | some d =>
      rw [Deed.countedSinceCreation_of_granted (h.accounts hd).granted,
        if_neg (Deed.granted_ne_counted _ _), Nat.add_zero, ← ((h.accounts hd).counters hfew).2]
      rfl

theorem Told.granted (h : s.Told deeds t) {key : DeviceKey} (hfirst : s'.firstByte = s.firstByte)
    (hdevices : s'.devices = (s.granting key).devices) (hnext : s'.nextByte = s.nextByte + 1) :
    s'.Told (deeds ++ [.granted key])
      (t.set (Device.activated key (s.addressOf s.nextByte) sessionKey) DeviceField.activation) where
  shows := hdevices ▸ shows_granting h.shows key
  next := by
    rw [hnext, h.next, Deed.grants_concat]
    exact (UInt8.ofNat_add _ 1).symm
  absent {other} hnone := by
    rw [DeviceTable.getElem?_set] at hnone
    split at hnone
    case isTrue => cases hnone
    case isFalse hkey =>
      have hother : key ≠ other := hkey
      simp [h.absent hnone, hother.symm]
  accounts {other d} hd := by
    rw [DeviceTable.getElem?_set] at hd
    rw [hfirst]
    split at hd
    case isTrue hkey =>
      obtain rfl : key = other := hkey
      obtain rfl := Option.some.inj hd
      exact h.accounts_granted key
    case isFalse hkey =>
      have hother : key ≠ other := hkey
      exact (h.accounts hd).of_other (by simpa using hother) (Deed.granted_ne_counted _ _)

theorem Told.counted (h : s.Told deeds t) {d : Device} (hd : t.devices[d.key]? = some d)
    (hfirst : s'.firstByte = s.firstByte)
    (hdevices : s'.devices = if HasRoom d then (s.counting d).devices else s.devices)
    (hnext : s'.nextByte = s.nextByte) : ∃ t', s'.Told (deeds ++ [.counted d.key]) t' := by
  obtain ⟨t', ht', hget⟩ := exists_counted h.shows hd
  refine ⟨t', hdevices ▸ ht', ?_, fun {other} hnone => ?_, fun {other e} he => ?_⟩
  · rw [hnext, h.next, Deed.grants_concat]
    rfl
  · rw [hget] at hnone
    split at hnone
    case isTrue => cases hnone
    case isFalse => simp [h.absent hnone]
  · rw [hget] at he
    rw [hfirst]
    by_cases hkey : other = d.key
    · subst hkey
      have hcounted := (h.accounts hd).counted
      split at he <;> split at hcounted
      case isTrue.isTrue => exact Option.some.inj he ▸ hcounted
      case isTrue.isFalse hboth hfull => exact absurd hboth.2 hfull
      case isFalse.isTrue hfull hroom => exact absurd ⟨rfl, hroom⟩ hfull
      case isFalse.isFalse => exact Option.some.inj (hd.symm.trans he) ▸ hcounted
    · rw [if_neg fun hboth => hkey hboth.1] at he
      exact (h.accounts he).of_other (Deed.granted_ne_counted _ _).symm
        (by simpa using fun h => hkey h.symm)

theorem Told.run (h : s.Told deeds t) {turn : Turn} (hturn : turn.SparesDevices) :
    ∃ t', (turn.run s).Told (deeds ++ (s.deed? turn).toList) t' := by
  have hfirst := s.firstByte_run turn
  rcases run_cases h.shows hturn with ⟨hdeed, hdevices, hnext⟩ | ⟨key, hdeed, hdevices, hnext⟩ |
    ⟨d, hdeed, hd, hdevices, hnext⟩
  · rw [hdeed, Option.toList_none, List.append_nil]
    exact ⟨t, hdevices ▸ h.shows, hnext.trans h.next, h.absent, fun hd => hfirst ▸ h.accounts hd⟩
  · rw [hdeed]
    exact ⟨_, h.granted hfirst hdevices hnext⟩
  · rw [hdeed]
    exact h.counted hd hfirst hdevices hnext

/-- Whatever a fresh broker gets to do, its deeds tell its records. -/
theorem Fresh.told_after (h : s.Fresh) {turns : List Turn} (hturns : ∀ turn ∈ turns, turn.SparesDevices) :
    ∃ t, (s.after turns).Told (s.deeds turns) t := by
  induction turns using List.reverseRecOn with
  | nil => exact ⟨_, h.told⟩
  | append_singleton turns turn ih =>
    obtain ⟨t, ht⟩ := ih fun turn hturn => hturns turn (by simp [hturn])
    rw [after_concat, deeds_concat]
    exact ht.run (hturns turn (by simp))

end Server

end LorawanRouting
