import LorawanRouting.Message.Offer
import LorawanRouting.Proofs.Identifier
import LorawanRouting.Proofs.Readers

/-!
The two receive windows that are offered after an uplink. They open at fixed times on a clock that
wraps around, the second one second after the first, and the name of an offer tells its gateway, its
time and its window.
-/

namespace LorawanRouting

theorem toNat_delayMicros {delay : Nat} (h : delay ≤ 4294967) :
    (delayMicros delay).toNat = 1000 * delay := by
  rw [delayMicros, Nat.min_eq_left (by omega), UInt32.toNat_ofNat_of_lt' (by simp [UInt32.size]; omega)]

theorem toNat_clockAfter (timestamp : UInt32) {delay : Nat} (h : delay ≤ 4294967) :
    (clockAfter timestamp delay).toNat = (timestamp.toNat + 1000 * delay) % 4294967296 := by
  rw [clockAfter, UInt32.toNat_add, toNat_delayMicros h]

theorem clockAfter_ne (timestamp : UInt32) {delay : Nat} (hpos : 0 < delay) (h : delay ≤ 4294967) :
    clockAfter timestamp delay ≠ timestamp := by
  intro heq
  have hlt := timestamp.toNat_lt
  have htime := toNat_clockAfter timestamp h
  rw [heq] at htime
  omega

theorem clockAfter_add (timestamp : UInt32) (first second : Nat) (h : first + second ≤ 4294967) :
    (clockAfter timestamp (first + second)).toNat =
      ((clockAfter timestamp first).toNat + 1000 * second) % 4294967296 := by
  rw [toNat_clockAfter timestamp h, toNat_clockAfter timestamp (by omega)]
  omega

namespace DownlinkOption

variable {g g' : GatewayEui} {t t' : UInt32} {w w' : Window}

theorem toList_name (g : GatewayEui) (t : UInt32) (w : Window) : (name g t w).toList =
    g.text.toList ++ ':' :: (Nat.toDigits 10 t.toNat ++ ':' :: w.label.toList) := by
  have hname : name g t w = g.text ++ ":" ++ toString t.toNat ++ ":" ++ w.label := rfl
  simp [hname]

theorem label_injective : Function.Injective Window.label := by
  intro w w' h
  cases w <;> cases w' <;> first | rfl | exact absurd h (by decide)

theorem name_eq_iff : name g t w = name g' t' w' ↔ g = g' ∧ t = t' ∧ w = w' := by
  constructor
  · intro h
    have hlist := congrArg String.toList h
    rw [toList_name, toList_name] at hlist
    have hlength : g.text.toList.length = g'.text.toList.length := by
      rw [Identifier.length_text, Identifier.length_text]
    obtain ⟨hgateway, hrest⟩ := List.append_inj hlist hlength
    have hrun : ∀ (t : UInt32) (w : Window),
        Reader.run Char.isDigit (Nat.toDigits 10 t.toNat ++ ':' :: w.label.toList) =
          some (Nat.toDigits 10 t.toNat, ':' :: w.label.toList) := fun t w =>
      Reader.run_append Nat.toDigits_ne_nil (Numeral.isDigit_toDigits _) (by simp)
    have hread := hrun t w
    rw [(List.cons.inj hrest).2, hrun t' w'] at hread
    obtain ⟨hdigits, hlabel⟩ := Prod.mk.inj (Option.some.inj hread)
    have htime := congrArg (fun ds => Nat.ofDigitChars 10 ds 0) hdigits
    simp only [Nat.ofDigitChars_ten_toDigits] at htime
    exact ⟨Identifier.text_injective (String.toList_injective hgateway),
      (UInt32.toNat_inj.mp htime).symm,
      label_injective (String.toList_injective (List.cons.inj hlabel).2.symm)⟩
  · rintro ⟨rfl, rfl, rfl⟩
    rfl

variable {u u' : Uplink} {band band' : Band} {join join' : Bool} {o o' : DownlinkOption}

theorem identifier_ofWindow (u : Uplink) (band : Band) (g : GatewayEui) (delays : WindowDelays)
    (w : Window) : (ofWindow u band g delays w).identifier =
      name g (ofWindow u band g delays w).timestamp w := rfl

def place : Window → Nat
  | .first => 0
  | .second => 1

theorem exists_window_of_offer {i : Nat} (h : (offers u band g join)[i]? = some o) :
    ∃ w, i = place w ∧ o.identifier = name o.gateway o.timestamp w := by
  match i with
  | 0 =>
    obtain rfl := Option.some.inj h
    exact ⟨.first, rfl, identifier_ofWindow ..⟩
  | 1 =>
    obtain rfl := Option.some.inj h
    exact ⟨.second, rfl, identifier_ofWindow ..⟩

theorem place_injective : Function.Injective place := by
  intro w w' h
  cases w <;> cases w' <;> first | rfl | exact absurd h (by decide)

theorem identifier_eq_iff {i i' : Nat} (h : (offers u band g join)[i]? = some o)
    (h' : (offers u' band' g' join')[i']? = some o') : o.identifier = o'.identifier ↔
      o.gateway = o'.gateway ∧ o.timestamp = o'.timestamp ∧ i = i' := by
  obtain ⟨w, rfl, hname⟩ := exists_window_of_offer h
  obtain ⟨w', rfl, hname'⟩ := exists_window_of_offer h'
  rw [hname, hname', name_eq_iff, place_injective.eq_iff]

theorem delays_of_band (band : Band) (join : Bool) :
    let delays := if join then band.joinAcceptDelays else band.receiveDelays
    0 < delays.first ∧ delays.second = delays.first + 1000 ∧ delays.second ≤ 4294967 := by
  cases join
  · exact ⟨Nat.zero_lt_succ _, rfl, Nat.le_of_ble_eq_true rfl⟩
  · exact ⟨Nat.zero_lt_succ _, rfl, Nat.le_of_ble_eq_true rfl⟩

/-- When the offered windows open, which one is preferred, and what their names tell. -/
theorem offers_timed_and_named :
    (∀ (band : Band) (u : Uplink) (g : GatewayEui) (join : Bool),
      let delays := if join then band.joinAcceptDelays else band.receiveDelays
      ∃ rx1 rx2, offers u band g join = [rx1, rx2] ∧ rx1.gateway = g ∧ rx2.gateway = g ∧
        rx1.timestamp.toNat = (u.gateway.timestamp.toNat + 1000 * delays.first) % UInt32.size ∧
        rx2.timestamp.toNat = (u.gateway.timestamp.toNat + 1000 * delays.second) % UInt32.size ∧
        rx2.timestamp.toNat = (rx1.timestamp.toNat + 1000000) % UInt32.size ∧
        rx1.timestamp ≠ u.gateway.timestamp ∧ rx2.timestamp ≠ u.gateway.timestamp ∧
        rx1.score < rx2.score) ∧
    ∀ (u u' : Uplink) (band band' : Band) (g g' : GatewayEui) (join join' : Bool) (i i' : Nat)
      (o o' : DownlinkOption), (offers u band g join)[i]? = some o →
      (offers u' band' g' join')[i']? = some o' →
        (o.identifier = o'.identifier ↔
          o.gateway = o'.gateway ∧ o.timestamp = o'.timestamp ∧ i = i') := by
  refine ⟨fun band u g join => ?_, fun u u' band band' g g' join join' i i' o o' h h' =>
    identifier_eq_iff h h'⟩
  intro delays
  obtain ⟨hpos, hsecond, hbound⟩ : 0 < delays.first ∧ delays.second = delays.first + 1000 ∧
      delays.second ≤ 4294967 := delays_of_band band join
  have hpos' : 0 < delays.second := by omega
  have hbound' : delays.first ≤ 4294967 := by omega
  have hlater := clockAfter_add u.gateway.timestamp delays.first 1000 (hsecond ▸ hbound)
  rw [← hsecond] at hlater
  have hscore : Window.first.score < Window.second.score := by decide
  exact ⟨_, _, rfl, rfl, rfl, toNat_clockAfter _ hbound', toNat_clockAfter _ hbound, hlater,
    clockAfter_ne _ hpos hbound', clockAfter_ne _ hpos' hbound, hscore⟩

/-- The second window after one uplink opens together with the first after another, just after the
clock went round, and yet their names differ. -/
theorem offers_named_apart_at_one_time :
    let g : GatewayEui := ⟨[0, 1, 2, 3, 4, 5, 6, 7], rfl⟩
    let band : Band := ⟨"EU_433", 434665000, 0, "SF12BW125", 10, .sameAsUplink, none⟩
    let heard : UInt32 → Uplink := fun t =>
      ⟨[], ⟨.lora, "SF7BW125", "4/5"⟩, ⟨g, t, 433175000, 0, 0⟩⟩
    ∃ o o', (offers (heard 4293967295) band g false)[1]? = some o ∧
      (offers (heard 4294967295) band g false)[0]? = some o' ∧
      o.gateway = o'.gateway ∧ o.timestamp = o'.timestamp ∧ o.identifier ≠ o'.identifier := by
  intro g band heard
  refine ⟨_, _, rfl, rfl, rfl, by decide, fun hname => ?_⟩
  have hapart := offers_timed_and_named.2 (heard 4293967295) (heard 4294967295) band band g g
    false false 1 0 _ _ rfl rfl
  exact absurd (hapart.mp hname).2.2 (by decide)

end DownlinkOption

end LorawanRouting
