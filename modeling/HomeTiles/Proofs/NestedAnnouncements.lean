import HomeTiles.Proofs.Announcements
import HomeTiles.Proofs.Transcripts

/-!
# Nested announcements: what comes of a change that listeners add to

Announcements are nested no deeper than favorites are to be made, and allowing more
levels changes nothing (`announceWithin_of_le`). What an announcement of a store
by itself comes to is `Announced`: the work is that of the favorites made one
after another with nobody listening, and what is heard is the transcript. Where
favorites are no object none is made and everybody only hears
(`announceWithin_stuck`).
-/

namespace HomeTiles

/-- The subscribed listeners leave the subscriptions as they are: at their next calls they make a favorite at most. -/
def Staying (listeners : List Listener) (subscribed : List Nat) : Prop :=
  ∀ number ∈ subscribed, ∀ listener, listeners[number]? = some listener → listener.stays = true

theorem Staying.afterCall {listeners : List Listener} {subscribed : List Nat} (staying : Staying listeners subscribed)
    (number : Nat) : Staying (afterCall listeners number) subscribed := by
  intro other inside called there
  rw [getElem?_afterCall] at there
  split_ifs at there
  · obtain ⟨listener, found, rfl⟩ := Option.map_eq_some_iff.mp there
    rw [Listener.stays, Listener.rests_later (staying other inside listener found), Bool.true_or]
  · exact staying other inside called there

theorem Staying.afterCalls {listeners : List Listener} {subscribed : List Nat} (staying : Staying listeners subscribed)
    (due : List (Nat × String)) : Staying (afterCalls listeners due) subscribed := by
  induction due generalizing listeners with
  | nil => exact staying
  | cons entry rest ih => exact ih (staying.afterCall entry.1)

namespace Run

variable {σ : Type}

/-! ## Enough levels -/

/-- What is done where a listener is at home matters only as far as the listeners that are pending there. -/
theorem visit_congr {α : Type} {act act' : Run σ → α × Run σ} {run : Run σ}
    (same : ∀ there : Run σ, there.pending = run.pending → act there = act' there) (number : Nat) :
    run.visit number act = run.visit number act' := by
  unfold visit
  split_ifs
  · exact same run rfl
  · split
    · exact same run rfl
    · next store _ => rw [same { run with store, number, shelf := run.stores } rfl]

/-- What a listener does at a call makes a favorite only where fewer are to be made than at the start. -/
theorem perform_congr {favorite favorite' : String → Run σ → Except Fault Unit × Run σ} {depth : Nat}
    (same : ∀ package (there : Run σ), there.pending < depth → favorite package there = favorite' package there)
    (fewer : ∀ package (there : Run σ), (favorite' package there).2.pending ≤ there.pending) (number : Nat)
    (listener : Listener) (behavior : Behavior) {run : Run σ} (few : run.pending + behavior.favoritesNow ≤ depth) :
    perform favorite number listener behavior run = perform favorite' number listener behavior run := by
  induction behavior generalizing run with
  | leaveThen rest ih => exact ih (Nat.le_trans (Nat.add_le_add_right (pending_unsubscribe_le _ run) _) few)
  | recruit name behavior rest _ ih =>
    have recruited : (run.visit listener.home (recruit { name, behavior, home := listener.home })).2.pending ≤
        run.pending + behavior.favorites :=
      pending_visit_le _ (fun there => Nat.le_of_eq (pending_recruit _ there)) listener.home run
    rw [Behavior.favoritesNow] at few
    exact ih (by omega)
  | favorite package rest ih =>
    rw [Behavior.favoritesNow] at few
    have made := pending_visit_le 0 (fewer package) listener.home run
    rw [perform, perform, visit_congr fun home below => same package home (by omega)]
    split
    · next changed returned =>
      rw [returned] at made
      exact ih (Nat.le_trans (Nat.add_le_add_right made _) (Nat.le_trans (Nat.add_le_add_left (Nat.le_succ _) _) few))
    · rfl
  | _ => rfl

/-- A call makes a favorite only where fewer are to be made than before. -/
theorem tell_congr {favorite favorite' : String → Run σ → Except Fault Unit × Run σ} {depth : Nat}
    (same : ∀ package (there : Run σ), there.pending < depth → favorite package there = favorite' package there)
    (fewer : ∀ package (there : Run σ), (favorite' package there).2.pending ≤ there.pending)
    (new old : Fields) {run : Run σ} (few : run.pending ≤ depth) (number : Nat) :
    tell favorite new old run number = tell favorite' new old run number := by
  unfold tell
  cases there : run.listeners[number]? with
  | none => rfl
  | some listener =>
    exact perform_congr same fewer number listener listener.behavior (Nat.le_trans (Nat.le_of_eq (pending_afterCall there)) few)

theorem pending_changeBy_le {announce : Announcer σ} (fewer : ∀ new old run, (announce new old run).pending ≤ run.pending)
    (ask : Fields → Except Fault Value) (run : Run σ) : (changeBy announce ask run).2.pending ≤ run.pending := by
  rcases changeBy_cases announce ask run with ⟨changes, _, committed⟩ | nothing
  · rw [committed]
    exact Nat.le_trans (fewer _ _ _) (Nat.le_of_eq (pending_commit_silent _ run))
  · exact Nat.le_of_eq (congrArg pending nothing)

theorem pending_announceWithin_le (depth : Nat) (new old : Fields) (run : Run σ) :
    (announceWithin depth new old run).pending ≤ run.pending := by
  induction depth generalizing new old run with
  | zero =>
    rw [announceWithin]
    exact pending_foldl_tell_le (fun _ _ => Nat.le_refl _) new old _ run
  | succ depth ih =>
    rw [announceWithin]
    exact pending_foldl_tell_le (fun _ there => pending_changeBy_le ih _ there) new old _ run

theorem foldl_tell_congr {favorite favorite' : String → Run σ → Except Fault Unit × Run σ} {depth : Nat}
    (same : ∀ package (there : Run σ), there.pending < depth → favorite package there = favorite' package there)
    (fewer : ∀ package (there : Run σ), (favorite' package there).2.pending ≤ there.pending)
    (new old : Fields) (numbers : List Nat) {run : Run σ} (few : run.pending ≤ depth) :
    numbers.foldl (tell favorite new old) run = numbers.foldl (tell favorite' new old) run := by
  induction numbers generalizing run with
  | nil => rfl
  | cons number rest ih =>
    rw [List.foldl_cons, List.foldl_cons, tell_congr same fewer new old few number]
    exact ih (Nat.le_trans (pending_tell_le fewer new old run number) few)

/-- One level more than there are favorites to be made changes nothing. -/
theorem announceWithin_succ (depth : Nat) (new old : Fields) {run : Run σ} (few : run.pending ≤ depth) :
    announceWithin (depth + 1) new old run = announceWithin depth new old run := by
  induction depth generalizing new old run with
  | zero =>
    rw [announceWithin, announceWithin]
    refine foldl_tell_congr (fun package there none => ?_) (fun _ _ => Nat.le_refl _) new old _ few
    exact absurd none (Nat.not_lt_zero _)
  | succ depth ih =>
    rw [announceWithin, announceWithin]
    refine foldl_tell_congr (fun package there fewer => ?_) (fun package there => ?_) new old _ few
    · unfold changeBy
      split
      · rfl
      · rw [commit_eq, commit_eq (announceWithin depth)]
        rw [ih _ _ (Nat.le_trans (Nat.le_of_eq (pending_commit_silent _ there)) (Nat.le_of_lt_succ fewer))]
      · rfl
    · exact pending_changeBy_le (pending_announceWithin_le depth) _ there

/-- However many levels are allowed beyond the favorites to be made, an announcement is the same: the bound on the
nesting never cuts one off. -/
theorem announceWithin_of_le {depth : Nat} (new old : Fields) {run : Run σ} (enough : run.pending ≤ depth) :
    announceWithin depth new old run = announce new old run := by
  obtain ⟨more, rfl⟩ := Nat.exists_eq_add_of_le enough
  induction more with
  | zero => rfl
  | succ more ih =>
    have few : run.pending ≤ run.pending + more := Nat.le_add_right _ _
    rw [← Nat.add_assoc, announceWithin_succ _ new old few, ih few]

theorem changeBy_announceWithin {depth : Nat} {run : Run σ} (enough : run.pending ≤ depth)
    (ask : Fields → Except Fault Value) : changeBy (announceWithin depth) ask run = run.setBy ask := by
  unfold setBy changeBy
  cases ask run.store.document with
  | error fault => rfl
  | ok asked =>
    cases asked with
    | object changes =>
      dsimp only
      rw [commit_eq, commit_eq announce, announceWithin_of_le]
      exact Nat.le_trans (Nat.le_of_eq (pending_commit_silent _ run)) enough
    | _ => rfl

/-- With all the levels that it needs an announcement calls one listener after another, and a favorite that one of
them makes is a favorite like any other. -/
theorem announce_eq (new old : Fields) (run : Run σ) :
    announce new old run = run.store.subscribed.foldl (tell favorite new old) run := by
  rw [← announceWithin_of_le new old (Nat.le_succ run.pending), announceWithin]
  refine foldl_tell_congr (fun package there few => ?_) (fun package there => ?_) new old _ (Nat.le_succ run.pending)
  · exact changeBy_announceWithin (Nat.le_of_lt_succ few) (Preferences.flipped package)
  · exact pending_changeBy_le (fun new old run => pending_announceWithin_le run.pending new old run) _ there

/-! ## One call after another -/

/-- A run that goes on from another with nothing but some events and notices. -/
def Heard (events : List Event) (run after : Run σ) : Prop :=
  ∃ notices, after = { run with events := run.events ++ events, notices }

/-- Where a call is over for good nothing is left but to report that it failed, if it did. -/
theorem perform_of_ends (favorite : String → Run σ → Except Fault Unit × Run σ) (number : Nat) (listener : Listener)
    {behavior : Behavior} (ends : behavior.ends = true) (run : Run σ) :
    ∃ notices, perform favorite number listener behavior run = { run with notices } := by
  cases behavior with
  | hear => exact ⟨run.notices, rfl⟩
  | scribble => exact ⟨run.notices, rfl⟩
  | wait rest => exact ⟨run.notices, rfl⟩
  | fail => exact ⟨_, rfl⟩
  | failOnce rest => exact ⟨_, rfl⟩
  | _ => cases ends

/-- Who stays and is not due only hears. -/
theorem heard_tell (favorite : String → Run σ → Except Fault Unit × Run σ) (new old : Fields) {run : Run σ}
    {number : Nat} (stays : ∀ listener, run.listeners[number]? = some listener → listener.stays = true)
    (idle : dueAt run.listeners number = none) :
    Heard (told run.listeners [number] new old) run (tell favorite new old run number) := by
  have rests : ∀ listener, run.listeners[number]? = some listener → listener.behavior.rests = true := by
    intro listener there
    rw [dueAt, there] at idle
    exact Listener.rests_of_stays (stays listener there) idle
  unfold tell
  rw [afterCall_of_rests rests]
  cases there : run.listeners[number]? with
  | none => exact ⟨run.notices, by simp [told, namesOf, there]⟩
  | some listener =>
    have heard : told run.listeners [number] new old = [⟨listener.name, new, old⟩] := by simp [told, namesOf, there]
    rw [heard]
    exact perform_of_ends favorite number listener (Behavior.ends_of_rests (rests listener there)) _

theorem heard_foldl_tell (favorite : String → Run σ → Except Fault Unit × Run σ) (new old : Fields) {numbers : List Nat}
    {run : Run σ} (staying : Staying run.listeners numbers) (idle : ∀ number ∈ numbers, dueAt run.listeners number = none) :
    Heard (told run.listeners numbers new old) run (numbers.foldl (tell favorite new old) run) := by
  induction numbers generalizing run with
  | nil => exact ⟨run.notices, by simp [told, namesOf]⟩
  | cons number rest ih =>
    obtain ⟨here, later⟩ := List.forall_mem_cons.mp idle
    obtain ⟨stays, staying⟩ := List.forall_mem_cons.mp staying
    obtain ⟨notices, first⟩ := heard_tell favorite new old stays here
    rw [List.foldl_cons, first]
    let heard : Run σ := { run with events := run.events ++ told run.listeners [number] new old, notices }
    have staying' : Staying heard.listeners rest := staying
    obtain ⟨notices', others⟩ := ih staying' later
    refine ⟨notices', ?_⟩
    rw [others, ← List.singleton_append, told_append, ← List.append_assoc]

/-- Who is due acts at home after hearing. -/
theorem tell_due (favorite : String → Run σ → Except Fault Unit × Run σ) (new old : Fields) {run : Run σ}
    (alone : run.Alone) {number : Nat} {package : String} (due : dueAt run.listeners number = some package) :
    let called : Run σ := { run with
      events := run.events ++ told run.listeners [number] new old, listeners := afterCall run.listeners number }
    ∃ notices, tell favorite new old run number = { (favorite package called).2 with notices } := by
  intro called
  obtain ⟨listener, there, own⟩ := Option.bind_eq_some_iff.mp due
  obtain ⟨rest, behavior, ends⟩ := Behavior.favorite?_eq_some_iff.mp own
  have heard : told run.listeners [number] new old = [⟨listener.name, new, old⟩] := by simp [told, namesOf, there]
  have apart : called.Alone := alone
  have at_home := apart.visit listener.home (favorite package)
  unfold tell
  rw [there]
  dsimp only
  rw [behavior, ← heard, perform, at_home]
  obtain ⟨result, changed⟩ := favorite package called
  cases result with
  | ok => exact perform_of_ends favorite number listener ends changed
  | error fault => exact ⟨_, rfl⟩

/-! ## The work of an announcement -/

/-- The subscribed listeners that are due. -/
def awaited (run : Run σ) : List (Nat × String) := dueAmong run.listeners run.store.subscribed

/-- Makes packages favorites one after another and tells nobody. -/
def flipAll (packages : List String) (run : Run σ) : Run σ :=
  packages.foldl (fun run package => (changeBy silent (Preferences.flipped package) run).2) run

theorem SameWork.trans {run other third : Run σ} (first : SameWork run other) (second : SameWork other third) :
    SameWork run third where
  device := second.device.trans first.device
  store := by rw [second.store, first.store]
  number := second.number.trans first.number
  shelf := second.shelf.trans first.shelf

/-- A silent commit looks at nothing but the work. -/
theorem SameWork.commit_silent {run other : Run σ} (same : SameWork run other) (document : Fields) :
    SameWork (commit silent document run).2 (commit silent document other).2 := by
  obtain ⟨device, store, number, shelf, listeners, events, notices⟩ := run
  obtain ⟨device', store', number', shelf', listeners', events', notices'⟩ := other
  obtain ⟨rfl, moved, rfl, rfl⟩ := same
  obtain ⟨subscribed, rfl⟩ : ∃ subscribed, store' = { store with subscribed } := ⟨_, moved⟩
  unfold commit silent
  simp only [withDocument, PreferenceStore.record]
  generalize store.storage.save _ _ = outcome
  obtain ⟨result, after, reported⟩ := outcome
  cases result with
  | ok => exact ⟨rfl, rfl, rfl, rfl⟩
  | error fault =>
    dsimp only
    split_ifs
    · exact ⟨rfl, rfl, rfl, rfl⟩
    · exact ⟨rfl, rfl, rfl, rfl⟩

theorem SameWork.flipAll {run other : Run σ} (same : SameWork run other) (packages : List String) :
    SameWork (run.flipAll packages) (other.flipAll packages) := by
  induction packages generalizing run other with
  | nil => exact same
  | cons package rest ih =>
    refine ih ?_
    dsimp only [changeBy]
    rw [same.document]
    cases Preferences.flipped package run.store.document with
    | error fault => exact same
    | ok changes =>
      cases changes with
      | object changes => exact same.commit_silent _
      | _ => exact same

/-- Where the favorites are an object a favorite is committed and announced. -/
theorem changeBy_flipped (announce : Announcer σ) {run : Run σ} {favorites : Fields}
    (found : run.store.document.get? Preferences.favoritesKey = some (.object favorites)) (package : String) :
    changeBy announce (Preferences.flipped package) run =
      commit announce (Preferences.withFlipped run.store.document package) run := by
  rw [changeBy, Preferences.withFlipped, Preferences.flipped_of_favorites found]

/-- A favorite leaves the favorites an object. -/
theorem favorites_withFlipped {document favorites : Fields}
    (found : document.get? Preferences.favoritesKey = some (.object favorites)) (package : String) :
    ∃ flipped, (Preferences.withFlipped document package).get? Preferences.favoritesKey = some (.object flipped) := by
  rw [Preferences.withFlipped_of_favorites found, Entries.get?_put, if_pos rfl]
  exact ⟨_, rfl⟩

theorem document_flipAll (packages : List String) {run : Run σ} {favorites : Fields}
    (found : run.store.document.get? Preferences.favoritesKey = some (.object favorites)) :
    (run.flipAll packages).store.document = Preferences.withAllFlipped run.store.document packages := by
  induction packages generalizing run favorites with
  | nil => rfl
  | cons package rest ih =>
    have flipped := changeBy_flipped silent found package
    obtain ⟨favorites', found'⟩ := favorites_withFlipped found package
    have document : (commit silent (Preferences.withFlipped run.store.document package) run).2.store.document =
        Preferences.withFlipped run.store.document package := document_commit_silent _ run
    rw [← document] at found'
    rw [flipAll, List.foldl_cons, flipped, ← flipAll, ih found', document]
    rfl

/-- What an announcement of the document comes to: the favorites of those who were due are made one after
another, the due ones are not due any more, and what was heard is the transcript. -/
structure Announced (old : Fields) (run after : Run σ) : Prop where
  work : SameWork (run.flipAll (run.awaited.map Prod.snd)) after
  subscribed : after.store.subscribed = run.store.subscribed
  listeners : after.listeners = afterCalls run.listeners run.awaited
  events : after.events =
    run.events ++ transcript run.listeners run.store.subscribed run.awaited run.store.document old
  settled : after.awaited = []

theorem subscribed_commit_silent (document : Fields) (run : Run σ) :
    (commit silent document run).2.store.subscribed = run.store.subscribed ∧
    (commit silent document run).2.listeners = run.listeners ∧
    (commit silent document run).2.events = run.events := by
  obtain ⟨device, persistent, notices, same⟩ := commit_silent_eq document run
  rw [same]
  exact ⟨rfl, rfl, rfl⟩

theorem announced_of_idle (favorite : String → Run σ → Except Fault Unit × Run σ) {run : Run σ}
    (staying : Staying run.listeners run.store.subscribed) (idle : run.awaited = []) (old : Fields) :
    Announced old run (run.store.subscribed.foldl (tell favorite run.store.document old) run) := by
  obtain ⟨notices, heard⟩ := heard_foldl_tell favorite run.store.document old staying (dueAmong_eq_nil_iff.mp idle)
  rw [heard]
  refine ⟨?_, rfl, ?_, ?_, idle⟩
  · rw [idle]
    exact ⟨rfl, rfl, rfl, rfl⟩
  · rw [idle]
    rfl
  · rw [idle]
    rfl

/-- The run in which a listener that is due has made its favorite: those up to it have heard of the document, it
has been called, and nobody has heard of the favorite yet. -/
def favored (run : Run σ) (old : Fields) (number : Nat) (package : String) (notices : List Notice) : Run σ :=
  let upTo := run.store.subscribed.take (run.store.subscribed.idxOf number + 1)
  (commit silent (Preferences.withFlipped run.store.document package) { run with
    events := run.events ++ told run.listeners upTo run.store.document old
    listeners := afterCall run.listeners number, notices }).2

section Favored

variable (run : Run σ) (old : Fields) (number : Nat) (package : String) (notices : List Notice)

theorem document_favored :
    (run.favored old number package notices).store.document = Preferences.withFlipped run.store.document package :=
  document_commit_silent _ _

theorem subscribed_favored : (run.favored old number package notices).store.subscribed = run.store.subscribed :=
  (subscribed_commit_silent _ _).1

theorem listeners_favored : (run.favored old number package notices).listeners = afterCall run.listeners number :=
  (subscribed_commit_silent _ _).2.1

theorem events_favored : (run.favored old number package notices).events =
    run.events ++ told run.listeners (run.store.subscribed.take (run.store.subscribed.idxOf number + 1))
      run.store.document old :=
  (subscribed_commit_silent _ _).2.2

theorem sameWork_favored :
    SameWork (commit silent (Preferences.withFlipped run.store.document package) run).2
      (run.favored old number package notices) := by
  refine SameWork.commit_silent ?_ _
  exact ⟨rfl, rfl, rfl, rfl⟩

end Favored

/-- When a favorite has been made the others are still due. -/
theorem favored_spec {run : Run σ} (alone : run.Alone) (staying : Staying run.listeners run.store.subscribed)
    {number : Nat} {package : String} {rest : List (Nat × String)} (due : run.awaited = (number, package) :: rest)
    (old : Fields) (notices : List Notice) :
    let after := run.favored old number package notices
    after.Alone ∧ Staying after.listeners after.store.subscribed ∧ after.awaited = rest := by
  dsimp only
  refine ⟨?_, ?_, ?_⟩
  · exact (sameWork_favored run old number package notices).alone (alone_commit_silent alone)
  · rw [listeners_favored, subscribed_favored]
    exact staying.afterCall number
  · rw [awaited, listeners_favored, subscribed_favored]
    exact (dueAmong_eq_cons due).2.2

/-- The part of a list up to the first occurrence of an item, and the part behind it. -/
private theorem take_drop_idxOf {before after : List Nat} {number : Nat} (first : number ∉ before) :
    (before ++ number :: after).take ((before ++ number :: after).idxOf number + 1) = before ++ [number] ∧
    (before ++ number :: after).drop ((before ++ number :: after).idxOf number + 1) = after := by
  have place : (before ++ number :: after).idxOf number = before.length := by
    rw [List.idxOf_append_of_notMem first, List.idxOf_cons_self, Nat.add_zero]
  rw [place, List.append_cons]
  have length : (before ++ [number]).length = before.length + 1 := by simp
  exact ⟨List.take_left' length, List.drop_left' length⟩
/-- Up to the first listener that is due everybody hears, and then its favorite is announced. -/
theorem foldl_tell_due (depth : Nat) {run : Run σ} (alone : run.Alone)
    (staying : Staying run.listeners run.store.subscribed) {favorites : Fields}
    (found : run.store.document.get? Preferences.favoritesKey = some (.object favorites))
    {number : Nat} {package : String} {rest : List (Nat × String)} (due : run.awaited = (number, package) :: rest)
    (old : Fields) :
    ∃ notices notices',
      (run.store.subscribed.take (run.store.subscribed.idxOf number + 1)).foldl
          (tell (fun package => changeBy (announceWithin depth) (Preferences.flipped package)) run.store.document old) run =
        { announceWithin depth (Preferences.withFlipped run.store.document package) run.store.document
            (run.favored old number package notices) with notices := notices' } := by
  obtain ⟨⟨before, after, split, idle⟩, dueHere, _⟩ := dueAmong_eq_cons due
  have fresh : number ∉ before := by
    intro inside
    rw [idle number inside] at dueHere
    cases dueHere
  have upTo : run.store.subscribed.take (run.store.subscribed.idxOf number + 1) = before ++ [number] := by
    rw [split]
    exact (take_drop_idxOf fresh).1
  have staying_before : Staying run.listeners before := by
    intro other inside
    exact staying other (by rw [split]; exact List.mem_append_left _ inside)
  let favorite (package : String) : Run σ → Except Fault Unit × Run σ :=
    changeBy (announceWithin depth) (Preferences.flipped package)
  obtain ⟨notices, heard⟩ := heard_foldl_tell favorite run.store.document old staying_before idle
  let reached : Run σ := { run with events := run.events ++ told run.listeners before run.store.document old, notices }
  have apart : reached.Alone := alone
  have dueReached : dueAt reached.listeners number = some package := dueHere
  obtain ⟨notices', acts⟩ := tell_due favorite run.store.document old apart dueReached
  refine ⟨notices, notices', ?_⟩
  rw [upTo, List.foldl_append, heard, List.foldl_cons, List.foldl_nil, acts]
  dsimp only [reached, favorite]
  rw [changeBy_flipped (announceWithin depth) ?there package, commit_eq, Run.favored, upTo, told_append, ← List.append_assoc]
  case there => exact found

/-- Those behind the first listener that is due hear of the document when everything has come of its favorite. -/
theorem announced_of_favored {depth : Nat} {run inner : Run σ} (alone : run.Alone)
    (staying : Staying run.listeners run.store.subscribed) {favorites : Fields}
    (found : run.store.document.get? Preferences.favoritesKey = some (.object favorites))
    {number : Nat} {package : String} {rest : List (Nat × String)} (due : run.awaited = (number, package) :: rest)
    {old : Fields} {notices : List Notice} (notices' : List Notice)
    (announced : Announced run.store.document (run.favored old number package notices) inner) :
    Announced old run ((run.store.subscribed.drop (run.store.subscribed.idxOf number + 1)).foldl
      (tell (fun package => changeBy (announceWithin depth) (Preferences.flipped package)) run.store.document old)
      { inner with notices := notices' }) := by
  obtain ⟨_, _, left⟩ := favored_spec alone staying due old notices
  have subscribed : inner.store.subscribed = run.store.subscribed := by
    rw [announced.subscribed, subscribed_favored]
  have listeners : inner.listeners = afterCalls run.listeners run.awaited := by
    rw [announced.listeners, listeners_favored, left, due]
    rfl
  -- nobody behind is due any more
  have staying' : Staying inner.listeners (run.store.subscribed.drop (run.store.subscribed.idxOf number + 1)) := by
    rw [listeners]
    intro other inside
    exact staying.afterCalls run.awaited other (List.mem_of_mem_drop inside)
  have idle : ∀ other ∈ run.store.subscribed.drop (run.store.subscribed.idxOf number + 1),
      dueAt inner.listeners other = none := by
    intro other inside
    refine dueAmong_eq_nil_iff.mp announced.settled other ?_
    rw [subscribed]
    exact List.mem_of_mem_drop inside
  let resumed : Run σ := { inner with notices := notices' }
  have resumes : Staying resumed.listeners _ := staying'
  obtain ⟨notices'', heard⟩ := heard_foldl_tell
    (fun package => changeBy (announceWithin depth) (Preferences.flipped package)) run.store.document old resumes idle
  rw [heard]
  refine ⟨?_, subscribed, listeners, ?_, announced.settled⟩
  · have flipped : run.flipAll (run.awaited.map Prod.snd) =
        ((commit silent (Preferences.withFlipped run.store.document package) run).2).flipAll (rest.map Prod.snd) := by
      rw [due, ← changeBy_flipped silent found package]
      rfl
    rw [flipped]
    refine ((sameWork_favored run old number package notices).flipAll _).trans ?_
    rw [← left]
    exact announced.work.trans ⟨rfl, rfl, rfl, rfl⟩
  · show inner.events ++ told inner.listeners _ _ _ = _
    rw [announced.events, events_favored, listeners, told_afterCalls, document_favored, listeners_favored,
      subscribed_favored, left, transcript_afterCall, due, transcript]
    simp only [List.append_assoc]

/-- An announcement goes into every favorite before it goes on. -/
theorem announceWithin_announced (depth : Nat) {run : Run σ} (alone : run.Alone)
    (staying : Staying run.listeners run.store.subscribed) {favorites : Fields}
    (found : run.store.document.get? Preferences.favoritesKey = some (.object favorites))
    (deep : run.awaited.length ≤ depth) (old : Fields) :
    Announced old run (announceWithin depth run.store.document old run) := by
  induction depth generalizing run favorites old with
  | zero => exact announced_of_idle _ staying (List.length_eq_zero_iff.mp (Nat.le_zero.mp deep)) old
  | succ depth ih =>
    cases due : run.awaited with
    | nil => exact announced_of_idle _ staying due old
    | cons entry rest =>
      obtain ⟨number, package⟩ := entry
      have shallow : rest.length ≤ depth := by
        rw [due, List.length_cons] at deep
        exact Nat.le_of_succ_le_succ deep
      obtain ⟨notices, notices', reached⟩ := foldl_tell_due depth alone staying found due old
      obtain ⟨apart, staying', left⟩ := favored_spec alone staying due old notices
      obtain ⟨favorites', found'⟩ := favorites_withFlipped found package
      rw [← document_favored run old number package notices] at found'
      have inner := ih apart staying' found' (left ▸ shallow) run.store.document
      rw [document_favored] at inner
      have parts (tell : Run σ → Nat → Run σ) : run.store.subscribed.foldl tell run =
          (run.store.subscribed.drop (run.store.subscribed.idxOf number + 1)).foldl tell
            ((run.store.subscribed.take (run.store.subscribed.idxOf number + 1)).foldl tell run) := by
        rw [← List.foldl_append, List.take_append_drop]
      rw [announceWithin, parts, reached]
      exact announced_of_favored alone staying found due notices' inner

theorem announce_announced {run : Run σ} (alone : run.Alone) (staying : Staying run.listeners run.store.subscribed)
    {favorites : Fields} (found : run.store.document.get? Preferences.favoritesKey = some (.object favorites))
    (old : Fields) : Announced old run (announce run.store.document old run) := by
  rw [← announceWithin_of_le run.store.document old (Nat.le_add_right run.pending run.awaited.length)]
  exact announceWithin_announced _ alone staying found (Nat.le_add_left _ _) old

/-! ## Favorites that cannot be made -/

/-- Where a favorite cannot be made who stays only hears and may not be due any more. -/
theorem tell_stuck {favorite : String → Run σ → Except Fault Unit × Run σ} (new old : Fields) {run : Run σ}
    (alone : run.Alone) (stuck : ∀ package (there : Run σ), there.store = run.store → (favorite package there).2 = there)
    {number : Nat} (stays : ∀ listener, run.listeners[number]? = some listener → listener.stays = true) :
    ∃ due notices, tell favorite new old run number = { run with
      events := run.events ++ told run.listeners [number] new old, listeners := afterCalls run.listeners due, notices } := by
  cases due : dueAt run.listeners number with
  | none =>
    obtain ⟨notices, heard⟩ := heard_tell favorite new old stays due
    exact ⟨[], notices, heard⟩
  | some package =>
    obtain ⟨notices, acts⟩ := tell_due favorite new old alone due
    let called : Run σ := { run with
      events := run.events ++ told run.listeners [number] new old, listeners := afterCall run.listeners number }
    have unmade : (favorite package called).2 = called := stuck package called rfl
    refine ⟨[(number, package)], notices, acts.trans ?_⟩
    dsimp only
    rw [unmade]
    rfl

theorem foldl_tell_stuck {favorite : String → Run σ → Except Fault Unit × Run σ} (new old : Fields) {run : Run σ}
    (alone : run.Alone) (stuck : ∀ package (there : Run σ), there.store = run.store → (favorite package there).2 = there)
    {numbers : List Nat} (staying : Staying run.listeners numbers) :
    ∃ due notices, numbers.foldl (tell favorite new old) run = { run with
      events := run.events ++ told run.listeners numbers new old, listeners := afterCalls run.listeners due, notices } := by
  induction numbers generalizing run with
  | nil => exact ⟨[], run.notices, by simp [told, namesOf, afterCalls]⟩
  | cons number rest ih =>
    obtain ⟨stays, staying⟩ := List.forall_mem_cons.mp staying
    obtain ⟨due, notices, first⟩ := tell_stuck new old alone stuck stays
    let heard : Run σ := { run with
      events := run.events ++ told run.listeners [number] new old, listeners := afterCalls run.listeners due, notices }
    have apart : heard.Alone := alone
    have staying' : Staying heard.listeners rest := Staying.afterCalls staying due
    obtain ⟨due', notices', others⟩ := ih apart stuck staying'
    refine ⟨due ++ due', notices', ?_⟩
    rw [List.foldl_cons, first, others, ← List.singleton_append, told_append, ← List.append_assoc]
    dsimp only [heard]
    rw [told_afterCalls, afterCalls, afterCalls, ← List.foldl_append, ← afterCalls]

/-- Where favorites are no object everybody only hears. -/
theorem announceWithin_stuck (depth : Nat) {run : Run σ} (alone : run.Alone)
    (staying : Staying run.listeners run.store.subscribed)
    (stuck : ∀ favorites, run.store.document.get? Preferences.favoritesKey ≠ some (.object favorites)) (new old : Fields) :
    ∃ due notices, announceWithin depth new old run = { run with
      events := run.events ++ told run.listeners run.store.subscribed new old
      listeners := afterCalls run.listeners due, notices } := by
  cases depth with
  | zero => exact foldl_tell_stuck new old alone (fun _ _ _ => rfl) staying
  | succ depth =>
    refine foldl_tell_stuck new old alone (fun package there same => ?_) staying
    rcases changeBy_cases (announceWithin depth) (Preferences.flipped package) there with ⟨changes, asked, _⟩ | nothing
    · rw [same] at asked
      obtain ⟨favorites, found⟩ := Preferences.favorites_of_flipped asked
      exact absurd found (stuck favorites)
    · exact nothing

end Run

end HomeTiles
