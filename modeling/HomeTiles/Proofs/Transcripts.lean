import HomeTiles.Listeners
import HomeTiles.Proofs.PreferenceDocuments

/-!
# Transcripts: what listeners hear of a change that some of them add to

A listener that is due makes a favorite the first time it is called, in the
middle of an announcement. `dueAmong` are those among the subscribed ones, each
once, in the order in which they are called. From them and the documents alone
comes the `transcript`: who hears what, and when. Everybody hears of the change
and of each favorite (`length_transcript`), and who stands behind the first
listener that is due hears of the change last, of the last favorite otherwise
(`lastOf_transcript`).
-/

namespace HomeTiles

/-! ## Listeners that are due -/

namespace Behavior

/-- Whether the same is done at every call, and nothing that a run shows but failing. -/
def rests : Behavior → Bool
  | .hear => true
  | .fail => true
  | .scribble => true
  | _ => false

/-- Whether the call is over and every later one is the same. -/
def ends : Behavior → Bool
  | .wait rest => rest.rests
  | .failOnce rest => rest.rests
  | behavior => behavior.rests

/-- The favorite that is made at the next call, if it is the only thing that is ever done. -/
def favorite? : Behavior → Option String
  | .favorite package rest => if rest.ends then some package else none
  | _ => none

theorem later_of_rests {behavior : Behavior} (rests : behavior.rests = true) : behavior.later = behavior := by
  cases behavior with
  | hear => rfl
  | fail => rfl
  | scribble => rfl
  | _ => cases rests

theorem ends_of_rests {behavior : Behavior} (rests : behavior.rests = true) : behavior.ends = true := by
  cases behavior with
  | hear => rfl
  | fail => rfl
  | scribble => rfl
  | _ => cases rests

theorem rests_later_of_ends {behavior : Behavior} (ends : behavior.ends = true) : behavior.later.rests = true := by
  cases behavior with
  | wait rest => exact ends
  | failOnce rest => exact ends
  | hear => rfl
  | fail => rfl
  | scribble => rfl
  | _ => cases ends

theorem favorite?_eq_some_iff {behavior : Behavior} {package : String} :
    behavior.favorite? = some package ↔ ∃ rest, behavior = .favorite package rest ∧ rest.ends = true := by
  cases behavior with
  | favorite other rest =>
    rw [favorite?]
    split_ifs with ends
    · simp [ends]
    · simp [ends]
  | _ => simp [favorite?]

theorem favorite?_of_rests {behavior : Behavior} (rests : behavior.rests = true) : behavior.favorite? = none := by
  cases behavior with
  | favorite package rest => cases rests
  | _ => rfl

end Behavior

/-- Whether a listener leaves the subscriptions as they are: it does the same at every call, or that and a favorite
at the next one. -/
def Listener.stays (listener : Listener) : Bool := listener.behavior.rests || listener.behavior.favorite?.isSome

theorem Listener.rests_of_stays {listener : Listener} (stays : listener.stays = true)
    (idle : listener.behavior.favorite? = none) : listener.behavior.rests = true := by
  simpa [Listener.stays, idle] using stays

/-- A listener that stays does the same at every call after the next one. -/
theorem Listener.rests_later {listener : Listener} (stays : listener.stays = true) :
    listener.behavior.later.rests = true := by
  cases due : listener.behavior.favorite? with
  | none =>
    have rests := Listener.rests_of_stays stays due
    rw [Behavior.later_of_rests rests]
    exact rests
  | some package =>
    obtain ⟨rest, behavior, ends⟩ := Behavior.favorite?_eq_some_iff.mp due
    rw [behavior, Behavior.later]
    exact Behavior.rests_later_of_ends ends

/-- The package that the listener of a number makes a favorite or not when it is next called. -/
def dueAt (listeners : List Listener) (number : Nat) : Option String :=
  (listeners[number]?).bind fun listener => listener.behavior.favorite?

/-- The listeners among some numbers that are due, with the packages: each of them once, in the order in
which they are first called. -/
def dueAmong (listeners : List Listener) (numbers : List Nat) : List (Nat × String) :=
  (numbers.filterMap fun number => (dueAt listeners number).map fun package => (number, package)).eraseDups

/-- The listeners after a call of each that was due. -/
def afterCalls (listeners : List Listener) (due : List (Nat × String)) : List Listener :=
  due.foldl (fun listeners entry => afterCall listeners entry.1) listeners

theorem getElem?_afterCall (listeners : List Listener) (number other : Nat) :
    (afterCall listeners number)[other]? =
      if number = other then (listeners[other]?).map fun listener => { listener with behavior := listener.behavior.later }
      else listeners[other]? := by
  rw [afterCall, List.getElem?_modify]
  split_ifs with same <;> simp

/-- A call of a listener that rests leaves the listeners as they are. -/
theorem afterCall_of_rests {listeners : List Listener} {number : Nat}
    (rests : ∀ listener, listeners[number]? = some listener → listener.behavior.rests = true) :
    afterCall listeners number = listeners := by
  refine List.ext_getElem? fun other => ?_
  rw [getElem?_afterCall]
  split_ifs with same
  · subst same
    cases there : listeners[number]? with
    | none => rfl
    | some listener => rw [Option.map_some, Behavior.later_of_rests (rests listener there)]
  · rfl

/-- A listener that was due is not due any more after its call; the others are as before. -/
theorem dueAt_afterCall {listeners : List Listener} {number : Nat} {package : String}
    (due : dueAt listeners number = some package) (other : Nat) :
    dueAt (afterCall listeners number) other = if number = other then none else dueAt listeners other := by
  rw [dueAt, getElem?_afterCall]
  split_ifs with same
  · subst same
    obtain ⟨listener, there, own⟩ := Option.bind_eq_some_iff.mp due
    obtain ⟨rest, behavior, ends⟩ := Behavior.favorite?_eq_some_iff.mp own
    rw [there, Option.map_some, Option.bind_some, behavior, Behavior.later]
    exact Behavior.favorite?_of_rests (Behavior.rests_later_of_ends ends)
  · rfl

theorem dueAmong_eq_nil_iff {listeners : List Listener} {numbers : List Nat} :
    dueAmong listeners numbers = [] ↔ ∀ number ∈ numbers, dueAt listeners number = none := by
  unfold dueAmong
  constructor
  · intro none number inside
    have missing : numbers.filterMap (fun number => (dueAt listeners number).map fun package => (number, package)) = [] := by
      rw [List.eq_nil_iff_forall_not_mem] at none ⊢
      intro entry member
      exact none entry (List.mem_eraseDups.mpr member)
    simpa using List.filterMap_eq_nil_iff.mp missing number inside
  · intro all
    rw [List.filterMap_eq_nil_iff.mpr fun number inside => by rw [all number inside, Option.map_none], List.eraseDups_nil]

/-- A call of a listener takes it out of those that are due, wherever it stands. -/
theorem filterMap_dueAt_afterCall {listeners : List Listener} {number : Nat} {package : String}
    (due : dueAt listeners number = some package) (numbers : List Nat) :
    numbers.filterMap (fun other => (dueAt (afterCall listeners number) other).map fun package => (other, package)) =
      (numbers.filterMap fun other => (dueAt listeners other).map fun package => (other, package)).filter
        fun entry => !entry == (number, package) := by
  induction numbers with
  | nil => rfl
  | cons other others ih =>
    rw [List.filterMap_cons, List.filterMap_cons, ih, dueAt_afterCall due]
    by_cases same : number = other
    · subst same
      simp [due]
    · cases dueAt listeners other with
      | none => simp [same]
      | some p => simp [same, Ne.symm same]

/-- The first listener that is due comes after some that are not; after its call the rest are due. -/
theorem dueAmong_eq_cons {listeners : List Listener} {numbers : List Nat} {number : Nat} {package : String}
    {rest : List (Nat × String)} (due : dueAmong listeners numbers = (number, package) :: rest) :
    (∃ before after, numbers = before ++ number :: after ∧ ∀ other ∈ before, dueAt listeners other = none) ∧
    dueAt listeners number = some package ∧ dueAmong (afterCall listeners number) numbers = rest := by
  unfold dueAmong at due ⊢
  cases found : numbers.filterMap fun other => (dueAt listeners other).map fun package => (other, package) with
  | nil =>
    rw [found] at due
    cases due
  | cons entry tail =>
    rw [found, List.eraseDups_cons, List.cons.injEq] at due
    obtain ⟨rfl, later⟩ := due
    obtain ⟨before, n, after, split, idle, here, _⟩ := List.filterMap_eq_cons_iff.mp found
    obtain ⟨_, dueHere, same⟩ := Option.map_eq_some_iff.mp here
    cases same
    refine ⟨⟨before, after, split, fun other inside => by simpa using idle other inside⟩, dueHere, ?_⟩
    rw [filterMap_dueAt_afterCall dueHere, found, List.filter_cons_of_neg (by simp)]
    exact later

theorem mem_dueAmong {listeners : List Listener} {numbers : List Nat} {number : Nat} {package : String} :
    (number, package) ∈ dueAmong listeners numbers ↔ number ∈ numbers ∧ dueAt listeners number = some package := by
  rw [dueAmong, List.mem_eraseDups, List.mem_filterMap]
  constructor
  · rintro ⟨other, inside, found⟩
    obtain ⟨_, due, same⟩ := Option.map_eq_some_iff.mp found
    cases same
    exact ⟨inside, due⟩
  · rintro ⟨inside, due⟩
    exact ⟨number, inside, by rw [due, Option.map_some]⟩

/-- Every listener is due once, however often it is subscribed. -/
theorem nodup_dueAmong {listeners : List Listener} {numbers : List Nat} {due : List (Nat × String)}
    (all : dueAmong listeners numbers = due) : (due.map Prod.fst).Nodup := by
  induction due generalizing listeners with
  | nil => exact List.nodup_nil
  | cons entry rest ih =>
    obtain ⟨number, package⟩ := entry
    obtain ⟨_, due, later⟩ := dueAmong_eq_cons all
    refine List.nodup_cons.mpr ⟨?_, ih later⟩
    intro again
    obtain ⟨⟨_, other⟩, inside, rfl⟩ := List.mem_map.mp again
    rw [← later, mem_dueAmong, dueAt_afterCall due, if_pos rfl] at inside
    cases inside.2

/-- Who is due comes in the order of the first places. -/
theorem idxOf_lt_of_dueAmong {listeners : List Listener} {numbers : List Nat} {first second : Nat × String}
    {rest : List (Nat × String)} (due : dueAmong listeners numbers = first :: second :: rest) :
    numbers.idxOf first.1 < numbers.idxOf second.1 := by
  obtain ⟨⟨before, after, split, idle⟩, dueFirst, later⟩ := dueAmong_eq_cons due
  obtain ⟨_, dueSecond, _⟩ := dueAmong_eq_cons later
  rw [dueAt_afterCall dueFirst] at dueSecond
  split_ifs at dueSecond with same
  have fresh : first.1 ∉ before := by
    intro inside
    rw [idle _ inside] at dueFirst
    cases dueFirst
  have later : second.1 ∉ before := by
    intro inside
    rw [idle _ inside] at dueSecond
    cases dueSecond
  rw [split, List.idxOf_append_of_notMem fresh, List.idxOf_append_of_notMem later, List.idxOf_cons_self,
    List.idxOf_cons_ne _ same]
  omega
/-! ## What is heard -/

/-- The document with a package made a favorite or not, whichever it was not. -/
def Preferences.withFlipped (document : Fields) (package : String) : Fields :=
  match Preferences.flipped package document with
  | .ok (.object changes) => document.merge changes
  | _ => document

/-- The names of the listeners of some numbers. -/
def namesOf (listeners : List Listener) (numbers : List Nat) : List String :=
  numbers.filterMap fun number => (listeners[number]?).map (·.name)

/-- What the listeners of some numbers hear when they are told of a change. -/
def told (listeners : List Listener) (numbers : List Nat) (new old : Fields) : List Event :=
  (namesOf listeners numbers).map fun name => ⟨name, new, old⟩

/-- What is heard of a change where some listeners are due: the change up to the first of them, all that comes
of its favorite, and only then the change by those who stand behind it. -/
def transcript (listeners : List Listener) (subscribed : List Nat) :
    List (Nat × String) → Fields → Fields → List Event
  | [], new, old => told listeners subscribed new old
  | (number, package) :: rest, new, old =>
    told listeners (subscribed.take (subscribed.idxOf number + 1)) new old ++
      transcript listeners subscribed rest (Preferences.withFlipped new package) new ++
      told listeners (subscribed.drop (subscribed.idxOf number + 1)) new old

theorem told_append (listeners : List Listener) (numbers others : List Nat) (new old : Fields) :
    told listeners (numbers ++ others) new old = told listeners numbers new old ++ told listeners others new old := by
  rw [told, namesOf, List.filterMap_append, List.map_append]
  rfl

/-- Who has been called goes by the same name. -/
theorem namesOf_afterCall (listeners : List Listener) (number : Nat) (numbers : List Nat) :
    namesOf (afterCall listeners number) numbers = namesOf listeners numbers := by
  unfold namesOf
  refine List.filterMap_congr fun other _ => ?_
  rw [getElem?_afterCall]
  split_ifs
  · rw [Option.map_map]
    rfl
  · rfl

theorem told_afterCall (listeners : List Listener) (number : Nat) (numbers : List Nat) (new old : Fields) :
    told (afterCall listeners number) numbers new old = told listeners numbers new old := by
  rw [told, namesOf_afterCall, told]

theorem transcript_afterCall (listeners : List Listener) (number : Nat) (subscribed : List Nat)
    (due : List (Nat × String)) (new old : Fields) :
    transcript (afterCall listeners number) subscribed due new old = transcript listeners subscribed due new old := by
  induction due generalizing new old with
  | nil => exact told_afterCall listeners number subscribed new old
  | cons entry rest ih =>
    obtain ⟨first, package⟩ := entry
    rw [transcript, transcript, told_afterCall, told_afterCall, ih]

/-- Whoever is told hears at the place at which it stands. -/
theorem getElem?_told {listeners : List Listener} {numbers : List Nat}
    (known : ∀ number ∈ numbers, number < listeners.length) (new old : Fields) (place : Nat) :
    (told listeners numbers new old)[place]? =
      numbers[place]?.bind fun number => listeners[number]?.map fun listener => ⟨listener.name, new, old⟩ := by
  induction numbers generalizing place with
  | nil => rfl
  | cons number rest ih =>
    obtain ⟨here, later⟩ := List.forall_mem_cons.mp known
    have first : told listeners (number :: rest) new old =
        ⟨listeners[number].name, new, old⟩ :: told listeners rest new old := by
      simp [told, namesOf, List.getElem?_eq_getElem here]
    rw [first]
    cases place with
    | zero => simp [List.getElem?_eq_getElem here]
    | succ place => exact ih later place

/-- If all numbers are those of listeners there are as many events as numbers. -/
theorem length_told {listeners : List Listener} {numbers : List Nat} (known : ∀ number ∈ numbers, number < listeners.length)
    (new old : Fields) : (told listeners numbers new old).length = numbers.length := by
  rw [told, List.length_map, namesOf]
  induction numbers with
  | nil => rfl
  | cons number rest ih =>
    obtain ⟨here, later⟩ := List.forall_mem_cons.mp known
    rw [List.filterMap_cons, List.getElem?_eq_getElem here, Option.map_some, List.length_cons, List.length_cons, ih later]

/-- Everybody hears of the change and of each favorite. -/
theorem length_transcript {listeners : List Listener} {subscribed : List Nat}
    (known : ∀ number ∈ subscribed, number < listeners.length) (due : List (Nat × String)) (new old : Fields) :
    (transcript listeners subscribed due new old).length = subscribed.length * (due.length + 1) := by
  induction due generalizing new old with
  | nil =>
    rw [transcript, length_told known]
    simp
  | cons entry rest ih =>
    obtain ⟨number, package⟩ := entry
    have parts := congrArg List.length (List.take_append_drop (subscribed.idxOf number + 1) subscribed)
    rw [List.length_append] at parts
    rw [transcript, List.length_append, List.length_append, ih,
      length_told fun other inside => known other (List.mem_of_mem_take inside),
      length_told fun other inside => known other (List.mem_of_mem_drop inside), List.length_cons, Nat.mul_succ _ (rest.length + 1)]
    omega

theorem told_afterCalls (listeners : List Listener) (due : List (Nat × String)) (numbers : List Nat) (new old : Fields) :
    told (afterCalls listeners due) numbers new old = told listeners numbers new old := by
  induction due generalizing listeners with
  | nil => rfl
  | cons entry rest ih => exact (ih (afterCall listeners entry.1)).trans (told_afterCall listeners entry.1 numbers new old)

/-- Making a package a favorite puts the flipped value under its name. -/
theorem Preferences.withFlipped_of_favorites {document favorites : Fields}
    (found : document.get? favoritesKey = some (.object favorites)) (package : String) :
    withFlipped document package = document.put favoritesKey
      (.object (favorites.put package (.bool (!(Value.underName favorites package).truthy)))) := by
  rw [withFlipped, flipped_of_favorites found]
  rfl

/-! ## What is heard last -/

/-- The document that a document becomes when packages are made favorites one after another. -/
def Preferences.withAllFlipped (document : Fields) (packages : List String) : Fields :=
  packages.foldl withFlipped document

/-- The last event that goes by a name. -/
def lastOf (name : String) (events : List Event) : Option Event := (events.filter (·.listener = name)).getLast?

/-- The places behind the first listener that is due: they hear of a change when all its favorites have been
announced. -/
def behind (subscribed : List Nat) : List (Nat × String) → List Nat
  | [] => []
  | (number, _) :: _ => subscribed.drop (subscribed.idxOf number + 1)

theorem lastOf_append (name : String) (events more : List Event) :
    lastOf name (events ++ more) = (lastOf name more).or (lastOf name events) := by
  rw [lastOf, List.filter_append, List.getLast?_append]
  rfl

/-- Who is told of one change hears of it last. -/
theorem lastOf_told (listeners : List Listener) (numbers : List Nat) (name : String) (new old : Fields) :
    lastOf name (told listeners numbers new old) =
      if name ∈ namesOf listeners numbers then some ⟨name, new, old⟩ else none := by
  unfold told
  induction namesOf listeners numbers with
  | nil => rfl
  | cons first rest ih =>
    rw [List.map_cons, ← List.singleton_append, lastOf_append, ih]
    by_cases later : name ∈ rest
    · rw [if_pos later, if_pos (List.mem_cons_of_mem first later), Option.some_or]
    · rw [if_neg later, Option.none_or]
      by_cases same : first = name
      · subst same
        simp [lastOf]
      · simp [lastOf, same, Ne.symm same, later]

theorem namesOf_subset (listeners : List Listener) {numbers others : List Nat} (inside : numbers ⊆ others) :
    namesOf listeners numbers ⊆ namesOf listeners others := by
  intro name found
  obtain ⟨number, member, called⟩ := List.mem_filterMap.mp found
  exact List.mem_filterMap.mpr ⟨number, inside member, called⟩

/-- Who stands behind a listener that is due later stands behind the first one. -/
theorem behind_subset {listeners : List Listener} {subscribed : List Nat} {first : Nat × String}
    {rest : List (Nat × String)} (due : dueAmong listeners subscribed = first :: rest) :
    behind subscribed rest ⊆ behind subscribed (first :: rest) := by
  cases rest with
  | nil => exact List.nil_subset _
  | cons second others =>
    have order := idxOf_lt_of_dueAmong due
    exact List.drop_subset_drop_left subscribed (by omega)

/-- The last event of a name is about the document that all favorites lead to, and about the first one if a
listener of the name stands behind the first that is due. -/
theorem lastOf_transcript {listeners : List Listener} {subscribed : List Nat} {due : List (Nat × String)}
    (all : dueAmong listeners subscribed = due) {name : String} (inside : name ∈ namesOf listeners subscribed)
    (new old : Fields) :
    ∃ event, lastOf name (transcript listeners subscribed due new old) = some event ∧
      event.new = if name ∈ namesOf listeners (behind subscribed due) then new
        else Preferences.withAllFlipped new (due.map Prod.snd) := by
  induction due generalizing listeners new old with
  | nil =>
    refine ⟨_, (lastOf_told _ _ _ new old).trans (if_pos inside), ?_⟩
    exact (if_neg (List.not_mem_nil)).symm
  | cons entry rest ih =>
    obtain ⟨number, package⟩ := entry
    obtain ⟨_, _, later⟩ := dueAmong_eq_cons all
    have known : name ∈ namesOf (afterCall listeners number) subscribed := by
      rw [namesOf_afterCall]
      exact inside
    obtain ⟨event, last, about⟩ := ih later known (Preferences.withFlipped new package) new
    rw [transcript_afterCall] at last
    rw [namesOf_afterCall] at about
    rw [transcript, lastOf_append, lastOf_told]
    by_cases late : name ∈ namesOf listeners (behind subscribed ((number, package) :: rest))
    · rw [if_pos late]
      exact ⟨_, by rw [if_pos (show name ∈ namesOf listeners (subscribed.drop _) from late), Option.some_or], rfl⟩
    · have early : name ∉ namesOf listeners (behind subscribed rest) :=
        fun there => late (namesOf_subset listeners (behind_subset all) there)
      rw [if_neg early] at about
      rw [if_neg late]
      refine ⟨event, ?_, about⟩
      rw [if_neg (show name ∉ namesOf listeners (subscribed.drop _) from late), Option.none_or, lastOf_append, last,
        Option.some_or]

end HomeTiles
