import LorawanRouting.Router.Connect
import Mathlib.Data.List.Basic
import Mathlib.Data.List.Induction

/-!
Which brokers a router gets hold of. An announcement can be connected if there is a connection to its
address already or a new one can be made; a broker that can be connected is handed out once for each
of its announcements, whatever else is announced.
-/

namespace LorawanRouting.Router

variable {κ : Type} {r s : Router κ}

def client? (attempt : Announcement → Option κ) (r : Router κ) (a : Announcement) : Option κ :=
  (r.cached? a).or (attempt a)

def clientAfter? (connect : Announcement → Nat → Option κ) (r : Router κ) (before : List Announcement)
    (a : Announcement) : Option κ :=
  let c := connectAll connect r before
  client? (nextAttempt connect c.attempts) c.router a

/-- The announcements that can be connected when their turn comes, with their clients. -/
def reached (connect : Announcement → Nat → Option κ) (r : Router κ) (as : List Announcement) :
    List (Announcement × κ) :=
  as.zipIdx.filterMap fun (a, i) => (clientAfter? connect r (as.take i) a).map (a, ·)

/-- A connection that was made to the address at which a broker is announced. -/
def connected (r : Router κ) (a : Announcement) : Bool :=
  r.connections[a.id]?.any (·.address = a.netAddress)

def unconnected (connect : Announcement → Nat → Option κ) (r : Router κ) (as : List Announcement) :
    List Announcement :=
  as.zipIdx.filterMap fun (a, i) =>
    if (connectAll connect r (as.take i)).router.connected a then none else some a

section One

variable {attempt : Announcement → Option κ}

theorem isSome_cached? (r : Router κ) (a : Announcement) : (r.cached? a).isSome = r.connected a := by
  rw [cached?, connected]
  cases r.connections[a.id]? with
  | none => rfl
  | some c => by_cases haddress : c.address = a.netAddress <;> simp [haddress]

theorem attempts_connectOne (attempt : Announcement → Option κ) (r : Router κ) (a : Announcement) :
    (connectOne attempt r a).attempts = if r.connected a then [] else [a] := by
  rw [← isSome_cached?, connectOne]
  cases r.cached? a with
  | some client => rfl
  | none => cases attempt a <;> rfl

theorem clients_connectOne (r : Router κ) (a : Announcement) :
    (connectOne attempt r a).clients = ((client? attempt r a).map (a.id, ·)).toList := by
  rw [connectOne, client?]
  cases r.cached? a with
  | some client => rfl
  | none => cases attempt a <;> rfl

theorem getElem?_connectOne (r : Router κ) (a : Announcement) (id : String) :
    (connectOne attempt r a).router.connections[id]? =
      if a.id = id then (client? attempt r a).map (Connection.mk a.netAddress)
      else r.connections[id]? := by
  rw [connectOne, client?]
  cases hcached : r.cached? a with
  | some client =>
    rw [cached?] at hcached
    split at hcached
    case h_2 => cases hcached
    -- the connection that is there is to the announced address, as a new one would be
    case h_1 c hc =>
      obtain ⟨haddress, hclient⟩ := Option.ite_none_right_eq_some.mp hcached
      obtain rfl := Option.some.inj hclient
      by_cases hid : a.id = id
      · subst hid
        simp [hc, ← haddress]
      · simp [hid]
  | none =>
    cases attempt a with
    | some client => simp [Std.ExtTreeMap.getElem?_insert]
    | none => simp [Std.ExtTreeMap.getElem?_erase]

theorem connectOne_frame (r : Router κ) (a : Announcement) :
    (connectOne attempt r a).router =
      { r with connections := (connectOne attempt r a).router.connections } := by
  rw [connectOne]
  cases r.cached? a with
  | some client => rfl
  | none => cases attempt a <;> rfl

theorem isSome_client? (r : Router κ) (a : Announcement) :
    (client? attempt r a).isSome = (r.connected a || (attempt a).isSome) := by
  rw [client?, Option.isSome_or, isSome_cached?]

theorem client?_congr {a : Announcement} (h : r.connections[a.id]? = s.connections[a.id]?) :
    client? attempt r a = client? attempt s a := by
  rw [client?, client?, cached?, cached?, h]

theorem connected_congr {a : Announcement} (h : r.connections[a.id]? = s.connections[a.id]?) :
    r.connected a = s.connected a := by
  rw [connected, connected, h]

end One

variable {connect : Announcement → Nat → Option κ}

theorem connectAll_concat (r : Router κ) (as : List Announcement) (a : Announcement) :
    connectAll connect r (as ++ [a]) =
      let c := connectAll connect r as
      let one := connectOne (nextAttempt connect c.attempts) c.router a
      ⟨c.attempts ++ one.attempts, c.clients ++ one.clients, one.router⟩ := by
  rw [connectAll, List.foldl_append]
  rfl

theorem connectAll_frame (r : Router κ) (as : List Announcement) :
    (connectAll connect r as).router =
      { r with connections := (connectAll connect r as).router.connections } := by
  induction as using List.reverseRecOn with
  | nil => rfl
  | append_singleton as a ih =>
    rw [connectAll_concat]
    dsimp only
    rw [connectOne_frame, ih]

theorem getElem?_connectAll_of_ne {as : List Announcement} {id : String} (h : ∀ a ∈ as, a.id ≠ id) :
    (connectAll connect r as).router.connections[id]? = r.connections[id]? := by
  induction as using List.reverseRecOn with
  | nil => rfl
  | append_singleton as a ih =>
    simp only [connectAll_concat, getElem?_connectOne]
    rw [if_neg (h a (by simp)), ih fun b hb => h b (by simp [hb])]

theorem connectAll_congr (connect : Announcement → Nat → Option κ) {as : List Announcement}
    (h : ∀ a ∈ as, r.connections[a.id]? = s.connections[a.id]?) :
    (connectAll connect r as).attempts = (connectAll connect s as).attempts ∧
      ∀ id : String, r.connections[id]? = s.connections[id]? →
        (connectAll connect r as).router.connections[id]? =
          (connectAll connect s as).router.connections[id]? := by
  induction as using List.reverseRecOn with
  | nil => exact ⟨rfl, fun _ hid => hid⟩
  | append_singleton as a ih =>
    obtain ⟨hattempts, hsame⟩ := ih fun b hb => h b (by simp [hb])
    have ha := hsame a.id (h a (by simp))
    simp only [connectAll_concat, getElem?_connectOne, attempts_connectOne, connected_congr ha,
      client?_congr ha, hattempts]
    exact ⟨trivial, fun id hid => by rw [hsame id hid]⟩

theorem clientAfter?_congr {as : List Announcement} {a : Announcement}
    (h : ∀ a ∈ as, r.connections[a.id]? = s.connections[a.id]?)
    (ha : r.connections[a.id]? = s.connections[a.id]?) :
    clientAfter? connect r as a = clientAfter? connect s as a := by
  obtain ⟨hattempts, hsame⟩ := connectAll_congr connect h
  rw [clientAfter?, clientAfter?, hattempts, client?_congr (hsame a.id ha)]

theorem filterMap_turns_concat {α β : Type} (f : List α → α → Option β) (as : List α) (a : α) :
    ((as ++ [a]).zipIdx.filterMap fun e => f ((as ++ [a]).take e.2) e.1) =
      (as.zipIdx.filterMap fun e => f (as.take e.2) e.1) ++ (f as a).toList := by
  have hearlier : (as.zipIdx.filterMap fun e => f ((as ++ [a]).take e.2) e.1) =
      as.zipIdx.filterMap fun e => f (as.take e.2) e.1 := by
    refine List.filterMap_congr fun e he => ?_
    have hlt := (List.mem_zipIdx he).2.1
    rw [List.take_append_of_le_length (by omega)]
  rw [List.zipIdx_append, List.filterMap_append, hearlier]
  congr 1
  simp only [List.zipIdx_singleton, List.filterMap_cons, List.filterMap_nil, Nat.zero_add,
    List.take_left]
  cases f as a <;> rfl

theorem filterMap_turns_congr {α β : Type} {f g : List α → α → Option β} {as : List α}
    (h : ∀ i, ∀ a ∈ as, f (as.take i) a = g (as.take i) a) :
    (as.zipIdx.filterMap fun e => f (as.take e.2) e.1) =
      as.zipIdx.filterMap fun e => g (as.take e.2) e.1 := by
  refine List.filterMap_congr fun e he => ?_
  obtain ⟨a, i⟩ := e
  exact h i a ((List.mem_zipIdx' he).2 ▸ List.getElem_mem _)

theorem reached_concat (r : Router κ) (as : List Announcement) (a : Announcement) :
    reached connect r (as ++ [a]) = reached connect r as ++
      ((clientAfter? connect r as a).map (a, ·)).toList :=
  filterMap_turns_concat (fun before a => (clientAfter? connect r before a).map (a, ·)) as a

theorem clients_connectAll (r : Router κ) (as : List Announcement) :
    (connectAll connect r as).clients = (reached connect r as).map fun e => (e.1.id, e.2) := by
  induction as using List.reverseRecOn with
  | nil => rfl
  | append_singleton as a ih =>
    rw [connectAll_concat, reached_concat, List.map_append, ← ih]
    dsimp only
    rw [clients_connectOne, clientAfter?]
    cases client? (nextAttempt connect (connectAll connect r as).attempts)
      (connectAll connect r as).router a <;> rfl

theorem reached_congr {as : List Announcement}
    (h : ∀ a ∈ as, r.connections[a.id]? = s.connections[a.id]?) :
    reached connect r as = reached connect s as := by
  refine filterMap_turns_congr (f := fun before a => (clientAfter? connect r before a).map (a, ·))
    (g := fun before a => (clientAfter? connect s before a).map (a, ·)) fun i a ha => ?_
  rw [clientAfter?_congr (fun b hb => h b (List.mem_of_mem_take hb)) (h a ha)]

theorem unconnected_concat (r : Router κ) (as : List Announcement) (a : Announcement) :
    unconnected connect r (as ++ [a]) = unconnected connect r as ++
      if (connectAll connect r as).router.connected a then [] else [a] := by
  have hconcat := filterMap_turns_concat
    (fun before a => if (connectAll connect r before).router.connected a then none else some a) as a
  refine hconcat.trans (congrArg _ ?_)
  split <;> rfl

theorem attempts_connectAll (r : Router κ) (as : List Announcement) :
    (connectAll connect r as).attempts = unconnected connect r as := by
  induction as using List.reverseRecOn with
  | nil => rfl
  | append_singleton as a ih =>
    rw [connectAll_concat, unconnected_concat, ← ih,
      ← attempts_connectOne (nextAttempt connect (connectAll connect r as).attempts)]

theorem mem_of_mem_attempts {as : List Announcement} {a : Announcement}
    (h : a ∈ (connectAll connect r as).attempts) : a ∈ as := by
  induction as using List.reverseRecOn with
  | nil => cases h
  | append_singleton as b ih =>
    rw [connectAll_concat] at h
    dsimp only at h
    rw [attempts_connectOne] at h
    rcases List.mem_append.mp h with h | h
    · exact List.mem_append_left _ (ih h)
    · split at h
      · cases h
      · exact List.mem_append_right _ h

theorem unconnected_congr {as : List Announcement}
    (h : ∀ a ∈ as, r.connections[a.id]? = s.connections[a.id]?) :
    unconnected connect r as = unconnected connect s as := by
  refine filterMap_turns_congr
    (f := fun before a => if (connectAll connect r before).router.connected a then none else some a)
    (g := fun before a => if (connectAll connect s before).router.connected a then none else some a)
    fun i a ha => ?_
  have htaken := connectAll_congr connect fun b hb => h b (List.mem_of_mem_take (i := i) hb)
  rw [connected_congr (htaken.2 a.id (h a ha))]

theorem getElem?_connectAll_of_nodup (connect : Announcement → Nat → Option κ) (r : Router κ)
    {as : List Announcement} {a : Announcement} (h : ((as ++ [a]).map Announcement.id).Nodup) :
    (as.map Announcement.id).Nodup ∧
      (connectAll connect r as).router.connections[a.id]? = r.connections[a.id]? ∧
      clientAfter? connect r as a = client? (connect · 0) r a := by
  rw [List.map_append, List.nodup_append] at h
  obtain ⟨has, -, hnew⟩ := h
  have hne : ∀ b ∈ as, b.id ≠ a.id := fun b hb => hnew b.id (List.mem_map_of_mem hb) a.id (by simp)
  have hsame : (connectAll connect r as).router.connections[a.id]? = r.connections[a.id]? :=
    getElem?_connectAll_of_ne hne
  have hfirst : (connectAll connect r as).attempts.count a = 0 :=
    List.count_eq_zero.mpr fun htried => hne a (mem_of_mem_attempts htried) rfl
  refine ⟨has, hsame, ?_⟩
  rw [clientAfter?, client?_congr hsame, client?, client?, nextAttempt, hfirst]

theorem getElem?_connectAll_of_mem {as : List Announcement} (h : (as.map Announcement.id).Nodup)
    {a : Announcement} (ha : a ∈ as) :
    (connectAll connect r as).router.connections[a.id]? =
      (client? (connect · 0) r a).map (Connection.mk a.netAddress) := by
  induction as using List.reverseRecOn with
  | nil => cases ha
  | append_singleton as b ih =>
    obtain ⟨has, -, hclient⟩ := getElem?_connectAll_of_nodup connect r h
    rw [connectAll_concat]
    dsimp only
    rw [getElem?_connectOne]
    rcases List.mem_append.mp ha with ha | ha
    · rw [List.map_append, List.nodup_append] at h
      have hne : b.id ≠ a.id := (h.2.2 a.id (List.mem_map_of_mem ha) b.id (by simp)).symm
      rw [if_neg hne, ih has ha]
    · obtain rfl := List.mem_singleton.mp ha
      rw [if_pos rfl, ← hclient]
      rfl

theorem reached_of_nodup {as : List Announcement} (h : (as.map Announcement.id).Nodup) :
    reached connect r as = as.filterMap fun a => (client? (connect · 0) r a).map (a, ·) := by
  induction as using List.reverseRecOn with
  | nil => rfl
  | append_singleton as a ih =>
    obtain ⟨has, -, hclient⟩ := getElem?_connectAll_of_nodup connect r h
    rw [reached_concat, ih has, List.filterMap_append, hclient]
    cases ha : client? (connect · 0) r a <;> simp [ha]

theorem map_fst_reached_of_nodup {as : List Announcement} (h : (as.map Announcement.id).Nodup) :
    (reached connect r as).map Prod.fst = as.filter fun a => (client? (connect · 0) r a).isSome := by
  rw [reached_of_nodup h]
  clear h
  induction as with
  | nil => rfl
  | cons a as ih => cases ha : client? (connect · 0) r a <;> simp [ha, ih]

theorem mem_reached_of_nodup {as : List Announcement} (h : (as.map Announcement.id).Nodup)
    (a : Announcement) (client : κ) :
    (a, client) ∈ reached connect r as ↔ a ∈ as ∧ client? (connect · 0) r a = some client := by
  rw [reached_of_nodup h, List.mem_filterMap]
  constructor
  · intro hmem
    obtain ⟨b, hb, heq⟩ := hmem
    obtain ⟨client', hclient, hpair⟩ := Option.map_eq_some_iff.mp heq
    cases hpair
    exact ⟨hb, hclient⟩
  · intro hmem
    obtain ⟨ha, hclient⟩ := hmem
    exact ⟨a, ha, by rw [hclient, Option.map_some]⟩

theorem nodup_ids_reached {as : List Announcement} (h : (as.map Announcement.id).Nodup) :
    ((reached connect r as).map (·.1.id)).Nodup := by
  have hids : (reached connect r as).map (·.1.id) =
      ((reached connect r as).map Prod.fst).map Announcement.id := List.map_map.symm
  rw [hids, map_fst_reached_of_nodup h]
  exact h.sublist (List.filter_sublist.map _)

theorem unconnected_of_nodup {as : List Announcement} (h : (as.map Announcement.id).Nodup) :
    unconnected connect r as = as.filter fun a => !r.connected a := by
  induction as using List.reverseRecOn with
  | nil => rfl
  | append_singleton as a ih =>
    obtain ⟨has, hsame, -⟩ := getElem?_connectAll_of_nodup connect r h
    rw [unconnected_concat, ih has, List.filter_append, connected_congr hsame]
    cases ha : r.connected a <;> simp [ha]

theorem getElem?_forgetDeparted {as : List Announcement} {a : Announcement} (h : a ∈ as) :
    (r.forgetDeparted as).connections[a.id]? = r.connections[a.id]? := by
  have hannounced : as.any (·.id = a.id) = true := List.any_eq_true.mpr ⟨a, h, by simp⟩
  rw [forgetDeparted, Std.ExtTreeMap.getElem?_filter']
  cases r.connections[a.id]? <;> simp [hannounced]

end LorawanRouting.Router
