import LorawanRouting.Proofs.JoinThenUplink
import LorawanRouting.Proofs.ServerRuns

/-!
The addresses that a broker gives out. The last byte of an address is the number of its grant modulo 256,
so two devices share an address when the numbers of their latest grants do, and with a first byte of zero
every 256th grant is of no address at all. As long as no device is left with an address of a whole round
before, all have addresses and no two have the same.
-/

namespace LorawanRouting.Server

theorem ofNat_eq_ofNat_iff (i j : Nat) : UInt8.ofNat i = UInt8.ofNat j ↔ i % 256 = j % 256 := by
  rw [← UInt8.toNat_inj, UInt8.toNat_ofNat', UInt8.toNat_ofNat']

theorem grantedAddress_eq_iff (firstByte : UInt8) (i j : Nat) :
    grantedAddress firstByte i = grantedAddress firstByte j ↔ i % 256 = j % 256 := by
  rw [← ofNat_eq_ofNat_iff]
  simp [grantedAddress, Identifier.ext_iff]

theorem isZero_grantedAddress_iff (firstByte : UInt8) (i : Nat) :
    (grantedAddress firstByte i).isZero = true ↔ firstByte = 0 ∧ i % 256 = 0 := by
  have hlast : UInt8.ofNat i = 0 ↔ i % 256 = 0 := ofNat_eq_ofNat_iff i 0
  simp [grantedAddress, Identifier.isZero, hlast]

structure AddressesApart (s : Server Devices) : Prop where
  assigned : ∀ {key d}, DeviceStore.get s.devices key = .ok d → ¬ d.address.isZero
  apart : ∀ {key other d e}, DeviceStore.get s.devices key = .ok d →
    DeviceStore.get s.devices other = .ok e → d.address = e.address → key = other

/-- No device is left with an address of a whole round before, nor with one of zeros. -/
def WithinRound (firstByte : UInt8) (deeds : List Deed) : Prop :=
  ∀ key, .granted key ∈ deeds → Deed.grants deeds < Deed.latestGrant deeds key + 256 ∧
    (firstByte = 0 → Deed.latestGrant deeds key % 256 ≠ 0)

variable {s : Server Devices} {deeds : List Deed} {t : DeviceTable}

theorem Told.addressesApart (h : s.Told deeds t) (hround : WithinRound s.firstByte deeds) :
    s.AddressesApart where
  assigned {key d} hd := by
    have hkey := h.accounts_of_get hd
    rw [hkey.address, isZero_grantedAddress_iff]
    intro hzero
    exact (hround key hkey.granted).2 hzero.1 hzero.2
  apart {key other d e} hd he hsame := by
    have hkey := h.accounts_of_get hd
    have hother := h.accounts_of_get he
    rw [hkey.address, hother.address, grantedAddress_eq_iff] at hsame
    -- both grants are among the last 256, where no two numbers agree modulo 256
    have hlast := (hround key hkey.granted).1
    have hlast' := (hround other hother.granted).1
    have hle := Deed.latestGrant_le deeds key
    have hle' := Deed.latestGrant_le deeds other
    exact Deed.eq_of_latestGrant_eq hkey.granted (by omega)

theorem withinRound_of_few {firstByte : UInt8} (h : Deed.grants deeds < 256) :
    WithinRound firstByte deeds := by
  intro key hkey
  have hpos := Deed.latestGrant_pos hkey
  have hle := Deed.latestGrant_le deeds key
  exact ⟨by omega, fun _ => by omega⟩

theorem AddressesApart.holder? (h : s.AddressesApart) (ht : s.Told deeds t) {m : RoutedUplink}
    {d : Device} (hd : DeviceStore.get s.devices d.key = .ok d)
    (haddress : frameAddress? m.payload = some d.address) : s.holder? m = some d := by
  refine (holder?_eq_some_iff ht.shows).mpr ⟨d.address, haddress, hd, rfl, h.assigned hd, ?_⟩
  intro e he hsame hne
  have hkey := h.apart he hd hsame
  rw [hkey, hd] at he
  exact absurd (Except.ok.inj he).symm hne

theorem payload_activate {request : Activation} {delay : Nat} {m : Downlink} (ht : s.Told deeds t)
    (h : (s.activate request).1 = .answers delay m) :
    m.payload = (grantedAddress s.firstByte (Deed.grants deeds + 1)).bytes := by
  obtain ⟨-, -, option, -, rfl⟩ := activate_answers h
  rw [grantedAddress, ← ht.next]
  rfl

/-- Which addresses a broker gives out, who holds them after any turns, and when they are all apart. -/
theorem addresses_apart_within_round (id : String) (firstByte : UInt8) (streamBuffer : Nat)
    {devices : Devices} (hempty : devices.Shows .empty) {turns : List Turn}
    (hturns : ∀ turn ∈ turns, turn.SparesDevices) :
    let start := new id firstByte devices streamBuffer
    let s := start.after turns
    let deeds := start.deeds turns
    (∀ request delay m, (s.activate request).1 = .answers delay m →
      m.payload = (grantedAddress firstByte (Deed.grants deeds + 1)).bytes) ∧
    (∀ key, (∃ d, DeviceStore.get s.devices key = .ok d) ↔ .granted key ∈ deeds) ∧
    (∀ key d, DeviceStore.get s.devices key = .ok d →
      d.address = grantedAddress firstByte (Deed.latestGrant deeds key) ∧
      (d.address.isZero ↔ firstByte = 0 ∧ Deed.latestGrant deeds key % 256 = 0)) ∧
    (∀ key other d e, DeviceStore.get s.devices key = .ok d → DeviceStore.get s.devices other = .ok e →
      (d.address = e.address ↔
        Deed.latestGrant deeds key % 256 = Deed.latestGrant deeds other % 256)) ∧
    (∀ m d, s.holder? m = some d ↔
      ∃ address, frameAddress? m.payload = some address ∧ s.FirstHolder address d) ∧
    (WithinRound firstByte deeds → s.AddressesApart) ∧
    (Deed.grants deeds < 256 → s.AddressesApart) ∧
    (s.AddressesApart → ∀ m d, DeviceStore.get s.devices d.key = .ok d →
      frameAddress? m.payload = some d.address → s.holder? m = some d) := by
  intro start s deeds
  have hfresh : start.Fresh := ⟨hempty, rfl⟩
  obtain ⟨t, ht⟩ : ∃ t, s.Told deeds t := hfresh.told_after hturns
  have hfirst : s.firstByte = firstByte := start.firstByte_after turns
  have haddress : ∀ {key d}, DeviceStore.get s.devices key = .ok d →
      d.address = grantedAddress firstByte (Deed.latestGrant deeds key) :=
    fun hd => hfirst ▸ (ht.accounts_of_get hd).address
  have hapart : WithinRound firstByte deeds → s.AddressesApart := fun hround =>
    ht.addressesApart (hfirst ▸ hround)
  refine ⟨fun request delay m hanswer => hfirst ▸ payload_activate ht hanswer, ht.exists_get_iff,
    fun key d hd => ⟨haddress hd, ?_⟩, fun key other d e hd he => ?_,
    fun m d => holder?_eq_some_iff ht.shows, hapart, fun hfew => hapart (withinRound_of_few hfew),
    fun h m d hd hframe => h.holder? ht hd hframe⟩
  · rw [haddress hd]
    exact isZero_grantedAddress_iff firstByte _
  · rw [haddress hd, haddress he]
    exact grantedAddress_eq_iff firstByte _ _

def numberedKey (n : UInt8) : DeviceKey :=
  ⟨Network.oneKey.app, ⟨[0, 0, 0, 0, 0, 0, 0, n], rfl⟩⟩

def joinOf (n : UInt8) : Turn :=
  .activate (Network.activation Frames.gateway
    (Frames.joinRequest (numberedKey n).app (numberedKey n).dev) Network.europe)

def joins (ns : List UInt8) : List Turn :=
  .call (.register Network.oneKey.app "handler-1") :: ns.map joinOf

/-- The addresses have come round once, but the devices have all joined again in time. -/
theorem addresses_apart_within_round_of_rejoined :
    let joined : List UInt8 := 2 :: List.replicate 200 3 ++ 2 :: List.replicate 100 3
    let turns := joins joined
    let start := new "broker-a" 0 .inMemory 16
    Devices.inMemory.Shows .empty ∧ (∀ turn ∈ turns, turn.SparesDevices) ∧
      WithinRound 0 (start.deeds turns) ∧ 256 < Deed.grants (start.deeds turns) ∧
      (start.after turns).AddressesApart := by
  intro joined turns start
  have hturns : ∀ turn ∈ turns, turn.SparesDevices := by
    intro turn hturn
    rcases List.mem_cons.mp hturn with rfl | hjoin
    · trivial
    · obtain ⟨n, -, rfl⟩ := List.mem_map.mp hjoin
      trivial
  have hdeeds : start.deeds turns = joined.map fun n => .granted (numberedKey n) := by
    decide +kernel
  have hround : WithinRound 0 (start.deeds turns) := by
    intro key hkey
    rw [hdeeds] at hkey ⊢
    have hkeys : key = numberedKey 2 ∨ key = numberedKey 3 := by
      obtain ⟨n, hn, heq⟩ := List.mem_map.mp hkey
      obtain rfl := Deed.granted.inj heq
      simp only [joined, List.mem_append, List.mem_cons, List.mem_replicate] at hn
      rcases hn with (rfl | ⟨-, rfl⟩) | rfl | ⟨-, rfl⟩ <;> simp
    rcases hkeys with rfl | rfl <;> decide +kernel
  obtain ⟨-, -, -, -, -, hapart, -⟩ :=
    addresses_apart_within_round "broker-a" 0 16 Devices.shows_inMemory hturns
  refine ⟨Devices.shows_inMemory, hturns, hround, ?_, hapart hround⟩
  rw [hdeeds]
  decide +kernel

/-- A device that keeps its address for a whole round gets a second holder beside it, who is not the one
that uplinks are attributed to; with a first byte of zero the address at the end of a round is none. -/
theorem addresses_may_repeat :
    let heard : RoutedUplink :=
      Network.routed Frames.gateway (Frames.dataUp (grantedAddress 0x26 1)) Network.europe
    let s := (new "broker-a" 0x26 .inMemory 16).after (joins (2 :: List.replicate 256 3))
    let z := (new "broker-a" 0 .inMemory 16).after (joins (List.replicate 256 2))
    ((DeviceStore.get s.devices (numberedKey 2)).map Device.address = .ok (grantedAddress 0x26 1) ∧
      (DeviceStore.get s.devices (numberedKey 3)).map Device.address = .ok (grantedAddress 0x26 257) ∧
      grantedAddress 0x26 257 = grantedAddress 0x26 1 ∧
      (s.holder? heard).map Device.key = some (numberedKey 2) ∧ ¬ s.AddressesApart) ∧
    (DeviceStore.get z.devices (numberedKey 2)).map Device.address = .ok (.zero .devAddr) ∧
      ¬ z.AddressesApart := by
  intro heard s z
  have hshared : (DeviceStore.get s.devices (numberedKey 2)).map Device.address =
        .ok (grantedAddress 0x26 1) ∧
      (DeviceStore.get s.devices (numberedKey 3)).map Device.address =
        .ok (grantedAddress 0x26 257) ∧
      grantedAddress 0x26 257 = grantedAddress 0x26 1 ∧
      (s.holder? heard).map Device.key = some (numberedKey 2) := by
    decide +kernel
  have hzero : (DeviceStore.get z.devices (numberedKey 2)).map Device.address =
      .ok (.zero .devAddr) := by
    decide +kernel
  have hstored : ∀ {r : Except StoreError Device} {a : DevAddr}, r.map Device.address = .ok a →
      ∃ d, r = .ok d ∧ d.address = a := by
    intro r a h
    cases r with
    | error e => cases h
    | ok d => exact ⟨d, rfl, Except.ok.inj h⟩
  obtain ⟨hfirst, hsecond, hsame, hheard⟩ := hshared
  refine ⟨⟨hfirst, hsecond, hsame, hheard, fun h => ?_⟩, hzero, fun h => ?_⟩
  · obtain ⟨d, hd, hda⟩ := hstored hfirst
    obtain ⟨e, he, hea⟩ := hstored hsecond
    have hkeys := h.apart hd he (hda.trans (hsame.symm.trans hea.symm))
    exact absurd hkeys (by decide)
  · obtain ⟨d, hd, hda⟩ := hstored hzero
    exact h.assigned hd (hda ▸ rfl)

end LorawanRouting.Server
