import HomeTiles.Proofs.LastHeard
import Mathlib.Data.List.Induction

/-!
# Registrations: what subscribing and unsubscribing leave

A listener stands in a store once for each of its subscriptions, and the function
that a subscription gave takes out the first place at which its listener stands. It
knows the listener and not the place, so a function that is called again takes out a
place of another subscription if there is one (`registered_unsubscribe`). A listener
stands at one place for each of its functions that was not called as long as no
function is called again while there is such a one (`Careful`, `count_registered`),
and only as long (`careful_of_registered`).
-/

namespace HomeTiles

/-- A call of a store's subscribing function, or of a function that it gave. -/
inductive SubscriptionCall where
  | subscribe (listener : Nat)
  /-- Calls the function of the subscription of a number; the first subscription has the number zero. -/
  | unsubscribe (number : Nat)
  deriving DecidableEq, Repr

/-- A subscription that was made: its listener, and whether its function has been called. -/
structure Receipt where
  listener : Nat
  called : Bool := false
  deriving DecidableEq, Repr

namespace SubscriptionCall

variable {σ : Type}

/-- Makes a call, with the subscriptions made so far at hand. -/
def act (state : List Subscription × Run σ) : SubscriptionCall → List Subscription × Run σ
  | .subscribe listener => (state.1 ++ [(state.2.subscribe listener).1], (state.2.subscribe listener).2)
  | .unsubscribe number => match state.1[number]? with
    | none => state
    | some subscription => (state.1, state.2.unsubscribe subscription)

/-- Makes calls one after the other at a store that nobody is subscribed to yet. -/
def actAll (calls : List SubscriptionCall) (run : Run σ) : List Subscription × Run σ :=
  calls.foldl act ([], run.unheard)

/-- Who is subscribed after some calls, at each place. -/
def registered (calls : List SubscriptionCall) (run : Run σ) : List Nat := (actAll calls run).2.store.subscribed

/-- What a call adds to the receipts: a new one, or the mark on one that its function was called. -/
def noted (receipts : List Receipt) : SubscriptionCall → List Receipt
  | .subscribe listener => receipts ++ [{ listener }]
  | .unsubscribe number => receipts.modify number fun receipt => { receipt with called := true }

/-- The receipts of the subscriptions made by some calls, in order. -/
def receipts (calls : List SubscriptionCall) : List Receipt := calls.foldl noted []

/-- No function is called again while there is a subscription of its listener whose function was not called. -/
def Careful (calls : List SubscriptionCall) : Prop :=
  ∀ before number, before ++ [.unsubscribe number] <+: calls →
    ∀ receipt ∈ (receipts before)[number]?, receipt.called = true → ⟨receipt.listener, false⟩ ∉ receipts before

/-! ## What a call does -/

theorem actAll_concat (calls : List SubscriptionCall) (call : SubscriptionCall) (run : Run σ) :
    actAll (calls ++ [call]) run = act (actAll calls run) call := by
  simp [actAll]

theorem receipts_concat (calls : List SubscriptionCall) (call : SubscriptionCall) :
    receipts (calls ++ [call]) = noted (receipts calls) call := by
  simp [receipts]

/-- At the end of some calls the subscriptions made are those of the receipts, all at the store at work. -/
theorem actAll_made (calls : List SubscriptionCall) (run : Run σ) :
    (actAll calls run).1 = (receipts calls).map (fun receipt => ⟨receipt.listener, run.number⟩) ∧
      (actAll calls run).2.number = run.number := by
  induction calls using List.reverseRecOn with
  | nil => exact ⟨rfl, rfl⟩
  | append_singleton calls call ih =>
    obtain ⟨made, here⟩ := ih
    rw [actAll_concat, receipts_concat]
    cases call with
    | subscribe listener => simp [act, noted, Run.subscribe, made, here]
    | unsubscribe number =>
      have marked : (noted (receipts calls) (.unsubscribe number)).map Receipt.listener =
          (receipts calls).map Receipt.listener := by
        refine List.ext_getElem? fun i => ?_
        simp only [noted, List.getElem?_map, List.getElem?_modify]
        cases (receipts calls)[i]? <;> by_cases same : number = i <;> simp [same]
      have same := congrArg (List.map fun listener => (⟨listener, run.number⟩ : Subscription)) marked
      simp only [List.map_map, Function.comp_def] at same
      rw [same, act]
      cases found : (actAll calls run).1[number]? with
      | none => exact ⟨made, here⟩
      | some subscription =>
        rw [made, List.getElem?_map] at found
        obtain ⟨receipt, _, rfl⟩ := Option.map_eq_some_iff.mp found
        exact ⟨made, by simp [Run.unsubscribe, Run.visit, here]⟩

theorem registered_subscribe (calls : List SubscriptionCall) (listener : Nat) (run : Run σ) :
    registered (calls ++ [.subscribe listener]) run = registered calls run ++ [listener] := by
  rw [registered, actAll_concat]
  rfl

/-- A function takes out the first place of its listener, whether or not it was called before. -/
theorem registered_unsubscribe {calls : List SubscriptionCall} {number : Nat} {receipt : Receipt}
    (found : (receipts calls)[number]? = some receipt) (run : Run σ) :
    registered (calls ++ [.unsubscribe number]) run = (registered calls run).erase receipt.listener := by
  obtain ⟨made, here⟩ := actAll_made calls run
  have there : (actAll calls run).1[number]? = some ⟨receipt.listener, run.number⟩ := by
    rw [made, List.getElem?_map, found, Option.map_some]
  rw [registered, actAll_concat, act, there]
  simp [Run.unsubscribe, Run.visit, here, registered]

/-- There is no function yet of a subscription that was not made yet. -/
theorem registered_unissued {calls : List SubscriptionCall} {number : Nat}
    (missing : (receipts calls)[number]? = none) (run : Run σ) :
    registered (calls ++ [.unsubscribe number]) run = registered calls run := by
  have nowhere : (actAll calls run).1[number]? = none := by
    rw [(actAll_made calls run).1, List.getElem?_map, missing, Option.map_none]
  rw [registered, actAll_concat, act, nowhere]
  rfl

/-! ## What the receipts say after a call -/

theorem receipts_unissued {calls : List SubscriptionCall} {number : Nat} (missing : (receipts calls)[number]? = none) :
    receipts (calls ++ [.unsubscribe number]) = receipts calls := by
  rw [receipts_concat, noted, List.modify_eq_self (List.getElem?_eq_none_iff.mp missing)]

/-- A function that is called again marks nothing. -/
theorem receipts_again {calls : List SubscriptionCall} {number listener : Nat}
    (found : (receipts calls)[number]? = some ⟨listener, true⟩) :
    receipts (calls ++ [.unsubscribe number]) = receipts calls := by
  refine List.ext_getElem? fun i => ?_
  rw [receipts_concat, noted, List.getElem?_modify]
  by_cases here : number = i
  · subst here
    simp [found]
  · simp [here]

theorem count_receipts_subscribe (calls : List SubscriptionCall) (listener other : Nat) :
    (receipts (calls ++ [.subscribe listener])).count ⟨other, false⟩ =
        (receipts calls).count ⟨other, false⟩ + (if listener = other then 1 else 0) ∧
      (receipts (calls ++ [.subscribe listener])).count ⟨other, true⟩ = (receipts calls).count ⟨other, true⟩ := by
  rw [receipts_concat, noted, List.count_append, List.count_append, List.count_singleton, List.count_singleton]
  simp

/-- A function that is called for the first time turns the receipt of its subscription over. -/
theorem count_receipts_first {calls : List SubscriptionCall} {number listener : Nat}
    (found : (receipts calls)[number]? = some ⟨listener, false⟩) (other : Nat) :
    (receipts (calls ++ [.unsubscribe number])).count ⟨other, false⟩ =
        (receipts calls).count ⟨other, false⟩ - (if listener = other then 1 else 0) ∧
      (receipts (calls ++ [.unsubscribe number])).count ⟨other, true⟩ =
        (receipts calls).count ⟨other, true⟩ + (if listener = other then 1 else 0) := by
  obtain ⟨inside, here⟩ := List.getElem?_eq_some_iff.mp found
  have turned : receipts (calls ++ [.unsubscribe number]) = (receipts calls).set number ⟨listener, true⟩ := by
    rw [receipts_concat, noted, List.modify_eq_set_getElem?, found]
    rfl
  rw [turned, List.count_set inside, List.count_set inside, here]
  simp

/-- Each subscription was made by a call, and its function was called or not. -/
theorem count_receipts (calls : List SubscriptionCall) (listener : Nat) :
    (receipts calls).count ⟨listener, false⟩ + (receipts calls).count ⟨listener, true⟩ =
      calls.count (.subscribe listener) := by
  induction calls using List.reverseRecOn with
  | nil => rfl
  | append_singleton calls call ih =>
    rw [List.count_append, List.count_singleton]
    cases call with
    | subscribe other =>
      obtain ⟨waiting, called⟩ := count_receipts_subscribe calls other listener
      simp only [waiting, called, beq_iff_eq, subscribe.injEq]
      omega
    | unsubscribe number =>
      rw [if_neg (by simp), Nat.add_zero, ← ih]
      cases found : (receipts calls)[number]? with
      | none => rw [receipts_unissued found]
      | some receipt =>
        obtain ⟨other, before⟩ := receipt
        cases before with
        | true => rw [receipts_again found]
        | false =>
          have some := List.count_pos_iff.mpr (List.mem_of_getElem? found)
          obtain ⟨waiting, called⟩ := count_receipts_first found listener
          rw [waiting, called]
          by_cases same : other = listener
          · subst same
            rw [if_pos rfl]
            omega
          · rw [if_neg same]
            omega

/-! ## Places and receipts -/

/-- A listener never stands at more places than it has subscriptions whose functions were not called. -/
theorem count_registered_le (calls : List SubscriptionCall) (run : Run σ) (listener : Nat) :
    (registered calls run).count listener ≤ (receipts calls).count ⟨listener, false⟩ := by
  induction calls using List.reverseRecOn with
  | nil => exact Nat.le_refl _
  | append_singleton calls call ih =>
    cases call with
    | subscribe other =>
      rw [registered_subscribe, (count_receipts_subscribe calls other listener).1, List.count_append, List.count_singleton]
      simp only [beq_iff_eq]
      omega
    | unsubscribe number =>
      cases found : (receipts calls)[number]? with
      | none =>
        rw [registered_unissued found, receipts_unissued found]
        exact ih
      | some receipt =>
        obtain ⟨other, before⟩ := receipt
        rw [registered_unsubscribe found, List.count_erase]
        simp only [beq_iff_eq]
        cases before with
        | true =>
          rw [receipts_again found]
          omega
        | false =>
          rw [(count_receipts_first found listener).1]
          omega

theorem Careful.of_prefix {before calls : List SubscriptionCall} (careful : Careful calls) (early : before <+: calls) :
    Careful before :=
  fun _ _ here => careful _ _ (here.trans early)

/-- As long as calls are careful each listener stands at one place for each of its functions that was not called. -/
theorem count_registered {calls : List SubscriptionCall} (careful : Careful calls) (run : Run σ) (listener : Nat) :
    (registered calls run).count listener = (receipts calls).count ⟨listener, false⟩ := by
  induction calls using List.reverseRecOn with
  | nil => rfl
  | append_singleton calls call ih =>
    have ih := ih (careful.of_prefix (List.prefix_append _ _))
    cases call with
    | subscribe other =>
      rw [registered_subscribe, (count_receipts_subscribe calls other listener).1, List.count_append,
        List.count_singleton, ih]
      simp only [beq_iff_eq]
    | unsubscribe number =>
      cases found : (receipts calls)[number]? with
      | none => rw [registered_unissued found, receipts_unissued found, ih]
      | some receipt =>
        obtain ⟨other, before⟩ := receipt
        rw [registered_unsubscribe found, List.count_erase, ih]
        simp only [beq_iff_eq]
        cases before with
        | true =>
          -- the listener has no subscription any more that the call could end
          have none := List.count_eq_zero.mpr (careful calls number List.prefix_rfl _ found rfl)
          rw [receipts_again found]
          by_cases same : other = listener
          · subst same
            rw [none, Nat.zero_sub]
          · rw [if_neg same, Nat.sub_zero]
        | false => rw [(count_receipts_first found listener).1]

/-- A function that is called again changes nothing just when its listener is not subscribed any more. -/
theorem registered_again_iff {calls : List SubscriptionCall} {number listener : Nat}
    (found : (receipts calls)[number]? = some ⟨listener, true⟩) (run : Run σ) :
    registered (calls ++ [.unsubscribe number]) run = registered calls run ↔ listener ∉ registered calls run := by
  rw [registered_unsubscribe found]
  exact List.erase_eq_self_iff

theorem careful_nil : Careful [] := by
  intro before number early
  have nothing := List.prefix_nil.mp early
  simp at nothing

private theorem careful_concat_iff {calls : List SubscriptionCall} {call : SubscriptionCall} :
    Careful (calls ++ [call]) ↔ Careful calls ∧ ∀ number, call = .unsubscribe number →
      ∀ receipt ∈ (receipts calls)[number]?, receipt.called = true → ⟨receipt.listener, false⟩ ∉ receipts calls := by
  constructor
  · intro careful
    refine ⟨careful.of_prefix (List.prefix_append _ _), ?_⟩
    rintro number rfl
    exact careful calls number List.prefix_rfl
  · rintro ⟨careful, last⟩ before number early
    rcases List.prefix_concat_iff.mp early with whole | earlier
    · obtain ⟨rfl, same⟩ := List.append_inj' whole rfl
      exact last number (List.singleton_inj.mp same).symm
    · exact careful before number earlier

theorem careful_subscribe_iff {calls : List SubscriptionCall} {listener : Nat} :
    Careful (calls ++ [.subscribe listener]) ↔ Careful calls := by
  simp [careful_concat_iff]

theorem careful_unsubscribe_iff {calls : List SubscriptionCall} {number : Nat} :
    Careful (calls ++ [.unsubscribe number]) ↔ Careful calls ∧
      ∀ receipt ∈ (receipts calls)[number]?, receipt.called = true → ⟨receipt.listener, false⟩ ∉ receipts calls := by
  simp [careful_concat_iff]

/-- Where after all first calls each listener stands at a place for each of its functions that was not called, the calls
were careful: a function that is called again takes out a place that belongs to another one. -/
theorem careful_of_registered {calls : List SubscriptionCall} (run : Run σ)
    (all : ∀ before, before <+: calls → ∀ listener,
      (registered before run).count listener = (receipts before).count ⟨listener, false⟩) : Careful calls := by
  rintro before number early ⟨listener, called⟩ found rfl among
  have first := all before ((List.prefix_append _ _).trans early) listener
  have after := all _ early listener
  rw [registered_unsubscribe found, receipts_again found, ← first] at after
  dsimp only at after among
  rw [List.count_erase_self] at after
  have some := List.count_pos_iff.mpr among
  omega

/-- Subscribing gives a listener one more place, the last. Calling the function of a subscription takes a place from its
listener and from no other; the first call takes exactly one and each further one none, and there are as many places as
subscriptions whose functions were not called, as long as no function is called again while its listener has such a
subscription, and only as long. -/
theorem registrations_of_calls (calls : List SubscriptionCall) (run : Run σ) :
    (∀ listener, registered (calls ++ [.subscribe listener]) run = registered calls run ++ [listener]) ∧
    (∀ number listener called, (receipts calls)[number]? = some ⟨listener, called⟩ →
      let after := registered (calls ++ [.unsubscribe number]) run
      after.filter (· ≠ listener) = (registered calls run).filter (· ≠ listener) ∧
      (called = false → Careful calls → after.count listener + 1 = (registered calls run).count listener) ∧
      (called = true → Careful calls → (after = registered calls run ↔ Careful (calls ++ [.unsubscribe number])))) ∧
    (∀ listener, (registered calls run).count listener + (receipts calls).count ⟨listener, true⟩ ≤
      calls.count (.subscribe listener)) ∧
    (Careful calls ↔ ∀ before, before <+: calls → ∀ listener,
      (registered before run).count listener + (receipts before).count ⟨listener, true⟩ =
        before.count (.subscribe listener)) := by
  refine ⟨fun listener => registered_subscribe calls listener run, ?_, fun listener => ?_, ?_, fun all => ?_⟩
  · intro number listener called found after
    refine ⟨?_, ?_, ?_⟩
    · rw [show after = _ from registered_unsubscribe found run, ← List.erase_filter]
      exact List.erase_of_not_mem (by simp)
    · rintro rfl careful
      have some := List.count_pos_iff.mpr (List.mem_of_getElem? found)
      rw [show after = _ from registered_unsubscribe found run, List.count_erase_self, count_registered careful run]
      omega
    · rintro rfl careful
      rw [registered_again_iff found, careful_unsubscribe_iff, ← List.count_eq_zero, count_registered careful run,
        List.count_eq_zero, found]
      simp [careful]
  · rw [← count_receipts]
    exact Nat.add_le_add_right (count_registered_le calls run listener) _
  · intro careful before early listener
    rw [← count_receipts, count_registered (careful.of_prefix early) run]
  · refine careful_of_registered run fun before early listener => ?_
    have whole := all before early listener
    rw [← count_receipts] at whole
    exact Nat.add_right_cancel whole

/-- A listener is subscribed on both sides of another one; both its functions are called, the first one twice. -/
theorem registrations_of_two_listeners :
    let run : Run Memory := ⟨{}, { storage := Memory.storage }, 0, [], [], [], []⟩
    let calls : List SubscriptionCall := [.subscribe 0, .subscribe 1, .subscribe 0, .unsubscribe 0, .unsubscribe 2]
    (receipts calls)[0]? = some ⟨0, true⟩ ∧ Careful calls ∧ Careful (calls ++ [.unsubscribe 0]) ∧
      registered (calls ++ [.unsubscribe 0]) run = [1] ∧
      ∀ listener, (registered calls run).count listener + (receipts calls).count ⟨listener, true⟩ =
        calls.count (.subscribe listener) := by
  intro run calls
  have found : (receipts calls)[0]? = some ⟨0, true⟩ := rfl
  have careful : Careful calls := by
    show Careful ([] ++ [_] ++ [_] ++ [_] ++ [_] ++ [_])
    rw [careful_unsubscribe_iff, careful_unsubscribe_iff, careful_subscribe_iff, careful_subscribe_iff,
      careful_subscribe_iff]
    exact ⟨⟨careful_nil, by decide⟩, by decide⟩
  have again : Careful (calls ++ [.unsubscribe 0]) := careful_unsubscribe_iff.mpr ⟨careful, by decide⟩
  obtain ⟨_, called, _, counts⟩ := registrations_of_calls calls run
  have same := ((called 0 0 true found).2.2 rfl careful).mpr again
  exact ⟨found, careful, again, same, counts.mp careful calls List.prefix_rfl⟩

/-- A listener is subscribed twice and the function of its first subscription is called twice: nobody has called the
function of the second one, and yet no place is left and nobody hears of a change. -/
theorem registration_taken_by_another :
    let run : Run Memory := ⟨{}, { storage := Memory.storage }, 0, [], [{ name := "a", behavior := .hear }], [], []⟩
    let calls : List SubscriptionCall := [.subscribe 0, .subscribe 0, .unsubscribe 0]
    (receipts calls)[0]? = some ⟨0, true⟩ ∧ registered calls run = [0] ∧
      registered (calls ++ [.unsubscribe 0]) run = [] ∧
      receipts (calls ++ [.unsubscribe 0]) = [⟨0, true⟩, ⟨0, false⟩] ∧
      ((actAll calls run).2.set (.object [("theme", .text "dark")])).2.events.length = 1 ∧
      ((actAll (calls ++ [.unsubscribe 0]) run).2.set (.object [("theme", .text "dark")])).2.events = [] := by
  decide +kernel

end SubscriptionCall
end HomeTiles
