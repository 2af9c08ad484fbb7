import HomeTiles.MemoryStorage
import HomeTiles.Proofs.AlikeValues
import HomeTiles.Proofs.Announcements
import Mathlib.Data.List.Induction

/-!
# Changes of single packages: the document after any calls

Toggling, resizing and flipping a favorite look at one package only, so what a
whole run of them leads to is known from how often each package was toggled and
flipped and which size it was given last (`ClosedForm`). `closedForm_actAll` says
that every run has this form, whatever becomes of its writes, and that the form
settles the document. As long as no listener is about to change a store,
announcing a change leaves the document alone.
-/

namespace HomeTiles

/-! ## Calls and what they lead to -/

/-- A change of one package that a caller asks for, the size being any value. -/
inductive KeyedCall where
  | toggle (package : String)
  | resize (package : String) (size : Value)
  | favorite (package : String)

/-- What stands under a name after so many flips: as often as not the opposite of the start. -/
def flippedTimes (times : Nat) (start : Option Value) : Option Value :=
  if times = 0 then start else some (.bool ((Value.ofOption start).truthy ^^ (times % 2 == 1)))

theorem flippedTimes_succ (times : Nat) (start : Option Value) :
    flippedTimes (times + 1) start = some (.bool (!(Value.ofOption (flippedTimes times start)).truthy)) := by
  have parity : ((times + 1) % 2 == 1) = !(times % 2 == 1) := by
    rcases Nat.mod_two_eq_zero_or_one times with even | odd
    · rw [Nat.add_mod, even]
      rfl
    · rw [Nat.add_mod, odd]
      rfl
  by_cases none : times = 0
  · subst none
    simp [flippedTimes]
  · rw [flippedTimes, flippedTimes, if_neg (Nat.succ_ne_zero times), if_neg none, parity]
    simp [Value.ofOption, Value.truthy]

namespace KeyedCall

variable {σ : Type}

/-- Makes the call at a store. -/
def act : KeyedCall → Run σ → Except Fault Unit × Run σ
  | .toggle package, run => run.toggle package
  | .resize package size, run => run.resize package size
  | .favorite package, run => run.favorite package

/-- Makes calls one after another, whatever they come to. -/
def actAll (calls : List KeyedCall) (run : Run σ) : Run σ := calls.foldl (fun run call => (call.act run).2) run

/-- Whether a call toggles a package. -/
def toggles (package : String) : KeyedCall → Bool
  | .toggle p => p == package
  | _ => false

/-- Whether a call flips whether a package is a favorite. -/
def flips (package : String) : KeyedCall → Bool
  | .favorite p => p == package
  | _ => false

/-- The size that a call gives a package, if the value names one. -/
def size? (package : String) : KeyedCall → Option WidgetSize
  | .resize p size => if p = package then (WidgetSize.ofValue size).toOption else none
  | _ => none

/-- The last size that calls give a package. -/
def lastSize? (package : String) (calls : List KeyedCall) : Option WidgetSize :=
  calls.reverse.findSome? (size? package)

/-- What stands in an entry after the calls of its package: only the two fields that calls are about
differ from the start. -/
def fieldAfter (calls : List KeyedCall) (package : String) (start : Fields) (field : String) : Option Value :=
  if field = "hide" then flippedTimes (calls.countP (toggles package)) (start.get? field)
  else if field = "size" then ((lastSize? package calls).map fun size => .text size.label).or (start.get? field)
  else start.get? field

/-- What has become of the widget of a package: nothing without calls, an entry otherwise, a start
that is no object counting as an empty one. -/
structure WidgetForm (calls : List KeyedCall) (package : String) (before after : Fields) : Prop where
  untouched : calls.countP (toggles package) = 0 → lastSize? package calls = none →
    after.get? package = before.get? package
  touched : calls.countP (toggles package) ≠ 0 ∨ lastSize? package calls ≠ none →
    ∃ entry : Fields, after.get? package = some (.object entry) ∧
      ∀ field, entry.get? field = fieldAfter calls package (Preferences.entryOf before package) field

/-- What has become of a document: the two maps differ from the start as the calls of each package
say, and nothing else does. -/
structure ClosedForm (calls : List KeyedCall) (start final : Fields) : Prop where
  others : ∀ key, key ≠ Preferences.widgetsKey → key ≠ Preferences.favoritesKey → final.get? key = start.get? key
  widgets : ∃ before after : Fields, start.get? Preferences.widgetsKey = some (.object before) ∧
    final.get? Preferences.widgetsKey = some (.object after) ∧ ∀ package, WidgetForm calls package before after
  favorites : ∃ before after : Fields, start.get? Preferences.favoritesKey = some (.object before) ∧
    final.get? Preferences.favoritesKey = some (.object after) ∧
    ∀ package, after.get? package = flippedTimes (calls.countP (flips package)) (before.get? package)

/-! ## One more call -/

theorem lastSize?_append (package : String) (calls : List KeyedCall) (call : KeyedCall) :
    lastSize? package (calls ++ [call]) = (size? package call).or (lastSize? package calls) := by
  unfold lastSize?
  rw [List.reverse_append, List.reverse_singleton, List.singleton_append, List.findSome?_cons]
  cases size? package call <;> rfl

theorem countP_append_call (p : KeyedCall → Bool) (calls : List KeyedCall) (call : KeyedCall) :
    (calls ++ [call]).countP p = calls.countP p + if p call then 1 else 0 := by
  rw [List.countP_append, List.countP_singleton]

/-- An entry, missing or not, holds what the calls so far make of it. -/
theorem WidgetForm.entryOf {calls : List KeyedCall} {package : String} {before after : Fields}
    (form : WidgetForm calls package before after) (field : String) :
    (Preferences.entryOf after package).get? field =
      fieldAfter calls package (Preferences.entryOf before package) field := by
  by_cases touched : calls.countP (toggles package) ≠ 0 ∨ lastSize? package calls ≠ none
  · obtain ⟨entry, there, fields⟩ := form.touched touched
    rw [Preferences.entryOf, there]
    exact fields field
  · simp only [not_or, Decidable.not_not] at touched
    have same : Preferences.entryOf after package = Preferences.entryOf before package := by
      rw [Preferences.entryOf, Preferences.entryOf, form.untouched touched.1 touched.2]
    rw [same, fieldAfter, touched.1, touched.2]
    split_ifs <;> rfl

/-- Calls that do not touch a package keep its form. -/
theorem WidgetForm.keep {calls : List KeyedCall} {package : String} {before after after' : Fields}
    (form : WidgetForm calls package before after) {call : KeyedCall} (idle : toggles package call = false)
    (sizeless : size? package call = none) (same : after'.get? package = after.get? package) :
    WidgetForm (calls ++ [call]) package before after' := by
  have count : (calls ++ [call]).countP (toggles package) = calls.countP (toggles package) := by
    rw [countP_append_call, idle]
    rfl
  have size : lastSize? package (calls ++ [call]) = lastSize? package calls := by
    rw [lastSize?_append, sizeless, Option.none_or]
  refine ⟨?_, ?_⟩
  · rw [count, size, same]
    exact form.untouched
  · rw [count, size, same]
    intro touched
    obtain ⟨entry, there, fields⟩ := form.touched touched
    refine ⟨entry, there, fun field => ?_⟩
    rw [fields, fieldAfter, fieldAfter, count, size]

/-- Toggling a package once more. -/
theorem WidgetForm.toggle {calls : List KeyedCall} {package : String} {before after : Fields}
    (form : WidgetForm calls package before after) :
    WidgetForm (calls ++ [.toggle package]) package before
      (after.put package (.object ((Preferences.entryOf after package).put "hide"
        (.bool (!(Value.underName (Preferences.entryOf after package) "hide").truthy))))) := by
  have count : (calls ++ [KeyedCall.toggle package]).countP (toggles package) = calls.countP (toggles package) + 1 := by
    rw [countP_append_call]
    simp [toggles]
  have size : lastSize? package (calls ++ [.toggle package]) = lastSize? package calls := by
    rw [lastSize?_append]
    rfl
  refine ⟨fun idle => by omega, fun _ => ⟨_, by rw [Entries.get?_put, if_pos rfl], fun field => ?_⟩⟩
  rw [Entries.get?_put, form.entryOf, fieldAfter, fieldAfter, count, size, Value.underName, form.entryOf, fieldAfter,
    if_pos rfl]
  by_cases hide : field = "hide"
  · subst hide
    rw [if_pos rfl, if_pos rfl, flippedTimes_succ]
  · rw [if_neg (Ne.symm hide), if_neg hide, if_neg hide]

/-- Giving a package a size. -/
theorem WidgetForm.resize {calls : List KeyedCall} {package : String} {before after : Fields}
    (form : WidgetForm calls package before after) {value : Value} {size : WidgetSize}
    (named : WidgetSize.ofValue value = .ok size) :
    WidgetForm (calls ++ [.resize package value]) package before
      (after.put package (.object ((Preferences.entryOf after package).put "size" (.text size.label)))) := by
  have count : (calls ++ [KeyedCall.resize package value]).countP (toggles package) = calls.countP (toggles package) := by
    rw [countP_append_call]
    rfl
  have last : lastSize? package (calls ++ [.resize package value]) = some size := by
    rw [lastSize?_append, size?, if_pos rfl, named]
    rfl
  refine ⟨fun _ none => ?_, fun _ => ⟨_, by rw [Entries.get?_put, if_pos rfl], fun field => ?_⟩⟩
  · rw [last] at none
    cases none
  rw [Entries.get?_put, form.entryOf, fieldAfter, fieldAfter, count, last]
  by_cases here : field = "size"
  · subst here
    rfl
  · rw [if_neg (Ne.symm here), if_neg here, if_neg here]

/-! ## Calls at a store -/

/-- The document after a call, its two maps being objects. -/
def written (call : KeyedCall) (document widgets favorites : Fields) : Fields :=
  match call with
  | .toggle package => document.put Preferences.widgetsKey (.object (widgets.put package (.object
      ((Preferences.entryOf widgets package).put "hide"
        (.bool (!(Value.underName (Preferences.entryOf widgets package) "hide").truthy))))))
  | .resize package size => match WidgetSize.ofValue size with
    | .ok size => document.put Preferences.widgetsKey (.object (widgets.put package (.object
        ((Preferences.entryOf widgets package).put "size" (.text size.label)))))
    | .error _ => document
  | .favorite package => document.put Preferences.favoritesKey (.object (favorites.put package
      (.bool (!(Value.underName favorites package).truthy))))

/-- A call commits the document it leads to and announces it, or gives a size that there is not. -/
theorem act_cases (call : KeyedCall) {run : Run σ} {widgets favorites : Fields}
    (widgetsFound : run.store.document.get? Preferences.widgetsKey = some (.object widgets))
    (favoritesFound : run.store.document.get? Preferences.favoritesKey = some (.object favorites)) :
    (call.act run).2 = Run.announce (call.written run.store.document widgets favorites) run.store.document
      (Run.commit Run.silent (call.written run.store.document widgets favorites) run).2 ∨
    ((call.act run).2 = run ∧ call.written run.store.document widgets favorites = run.store.document) := by
  have committed : ∀ {ask : Fields → Except Fault Value} {changes : Fields},
      ask run.store.document = .ok (.object changes) →
      (run.setBy ask).2 = Run.announce (run.store.document.merge changes) run.store.document
        (Run.commit Run.silent (run.store.document.merge changes) run).2 := by
    intro ask changes asked
    rw [Run.setBy, Run.changeBy, asked]
    exact congrArg Prod.snd (Run.commit_eq _ _ _)
  cases call with
  | toggle package => exact .inl (committed (Preferences.toggled_of_widgets widgetsFound package))
  | favorite package => exact .inl (committed (Preferences.flipped_of_favorites favoritesFound package))
  | resize package size =>
    simp only [act, Run.resize, written]
    cases WidgetSize.ofValue size with
    | error fault => exact .inr ⟨rfl, rfl⟩
    | ok size => exact .inl (committed (Preferences.resized_of_widgets widgetsFound package size))

theorem proper_written (call : KeyedCall) {document widgets favorites : Fields} (proper : (Value.object document).Proper)
    (widgetsFound : document.get? Preferences.widgetsKey = some (.object widgets))
    (favoritesFound : document.get? Preferences.favoritesKey = some (.object favorites)) :
    (Value.object (call.written document widgets favorites)).Proper := by
  have entry := Preferences.proper_entryOf (proper.of_get? widgetsFound)
  cases call with
  | toggle package =>
    exact proper.put _ ((proper.of_get? widgetsFound).put _ ((entry package).put _ trivial))
  | favorite package => exact proper.put _ ((proper.of_get? favoritesFound).put _ trivial)
  | resize package size =>
    simp only [written]
    cases WidgetSize.ofValue size with
    | error fault => exact proper
    | ok size => exact proper.put _ ((proper.of_get? widgetsFound).put _ ((entry package).put _ trivial))

theorem ClosedForm.nil {start : Fields} (widgets : (Value.underName start Preferences.widgetsKey).isObject = true)
    (favorites : (Value.underName start Preferences.favoritesKey).isObject = true) : ClosedForm [] start start := by
  obtain ⟨before, found⟩ := Value.get?_of_isObject widgets
  obtain ⟨before', found'⟩ := Value.get?_of_isObject favorites
  refine ⟨fun _ _ _ => rfl, ⟨before, before, found, found, fun package => ⟨fun _ _ => rfl, ?_⟩⟩,
    ⟨before', before', found', found', fun package => rfl⟩⟩
  rintro (toggled | sized)
  · exact absurd rfl toggled
  · exact absurd rfl sized

private theorem keys_differ : Preferences.widgetsKey ≠ Preferences.favoritesKey := by decide

/-- A change of the widget of one package. -/
private theorem ClosedForm.widget {calls : List KeyedCall} {call : KeyedCall} {start document before widgets after : Fields}
    {package : String} (form : ClosedForm calls start document)
    (found : start.get? Preferences.widgetsKey = some (.object before))
    (there : document.get? Preferences.widgetsKey = some (.object widgets))
    (flipless : ∀ p, flips p call = false) (idle : ∀ p, p ≠ package → toggles p call = false ∧ size? p call = none)
    (own : WidgetForm (calls ++ [call]) package before after)
    (apart : ∀ p, p ≠ package → after.get? p = widgets.get? p) :
    ClosedForm (calls ++ [call]) start (document.put Preferences.widgetsKey (.object after)) := by
  obtain ⟨before', widgets', found', there', forms⟩ := form.widgets
  rw [found] at found'
  cases found'
  rw [there] at there'
  cases there'
  obtain ⟨first, last, found', there', flipped⟩ := form.favorites
  refine ⟨fun key other_widgets other_favorites => ?_, ⟨before, after, found, ?_, fun p => ?_⟩,
    ⟨first, last, found', ?_, fun p => ?_⟩⟩
  · rw [Entries.get?_put, if_neg (Ne.symm other_widgets)]
    exact form.others key other_widgets other_favorites
  · rw [Entries.get?_put, if_pos rfl]
  · by_cases here : p = package
    · rw [here]
      exact own
    · exact (forms p).keep (idle p here).1 (idle p here).2 (apart p here)
  · rw [Entries.get?_put, if_neg keys_differ]
    exact there'
  · rw [flipped, countP_append_call, flipless]
    rfl

/-- A call that toggles nothing, flips nothing and gives no size. -/
private theorem ClosedForm.idle {calls : List KeyedCall} {call : KeyedCall} {start document : Fields}
    (form : ClosedForm calls start document) (idle : ∀ p, toggles p call = false) (sizeless : ∀ p, size? p call = none)
    (flipless : ∀ p, flips p call = false) : ClosedForm (calls ++ [call]) start document := by
  obtain ⟨before, widgets, found, there, forms⟩ := form.widgets
  obtain ⟨first, last, found', there', flipped⟩ := form.favorites
  refine ⟨form.others, ⟨before, widgets, found, there, fun p => (forms p).keep (idle p) (sizeless p) rfl⟩,
    ⟨first, last, found', there', fun p => ?_⟩⟩
  rw [flipped, countP_append_call, flipless]
  rfl

/-- A flip of the favorite of one package. -/
private theorem ClosedForm.flip {calls : List KeyedCall} {start document favorites : Fields}
    (form : ClosedForm calls start document)
    (there : document.get? Preferences.favoritesKey = some (.object favorites)) (package : String) :
    ClosedForm (calls ++ [.favorite package]) start (document.put Preferences.favoritesKey
      (.object (favorites.put package (.bool (!(Value.underName favorites package).truthy))))) := by
  obtain ⟨before, widgets, found, widgetsFound, forms⟩ := form.widgets
  obtain ⟨first, favorites', found', there', flipped⟩ := form.favorites
  rw [there] at there'
  cases there'
  refine ⟨fun key other_widgets other_favorites => ?_,
    ⟨before, widgets, found, ?_, fun p => (forms p).keep rfl rfl rfl⟩,
    ⟨first, _, found', by rw [Entries.get?_put, if_pos rfl], fun p => ?_⟩⟩
  · rw [Entries.get?_put, if_neg (Ne.symm other_favorites)]
    exact form.others key other_widgets other_favorites
  · rw [Entries.get?_put, if_neg (Ne.symm keys_differ)]
    exact widgetsFound
  · rw [Entries.get?_put, countP_append_call]
    by_cases here : package = p
    · subst here
      rw [if_pos rfl, Value.underName, flipped, ← flippedTimes_succ]
      simp [flips]
    · rw [if_neg here, flipped]
      simp [flips, here]

/-- One more call brings a document of the closed form to one of the closed form. -/
theorem ClosedForm.written {calls : List KeyedCall} {start document widgets favorites : Fields}
    (form : ClosedForm calls start document) (call : KeyedCall)
    (widgetsFound : document.get? Preferences.widgetsKey = some (.object widgets))
    (favoritesFound : document.get? Preferences.favoritesKey = some (.object favorites)) :
    ClosedForm (calls ++ [call]) start (call.written document widgets favorites) := by
  obtain ⟨before, widgets', found, there, forms⟩ := form.widgets
  rw [widgetsFound] at there
  cases there
  cases call with
  | toggle package =>
    refine form.widget found widgetsFound (fun p => rfl) (fun p other => ⟨?_, rfl⟩) (forms package).toggle
      fun p other => ?_
    · simpa [toggles] using Ne.symm other
    · rw [Entries.get?_put, if_neg (Ne.symm other)]
  | resize package size =>
    simp only [KeyedCall.written]
    cases named : WidgetSize.ofValue size with
    | ok size =>
      refine form.widget found widgetsFound (fun p => rfl) (fun p other => ⟨rfl, ?_⟩) ((forms package).resize named)
        fun p other => ?_
      · rw [size?, if_neg (Ne.symm other)]
      · rw [Entries.get?_put, if_neg (Ne.symm other)]
    | error fault =>
      -- a value that names no size leaves the document as it is
      refine form.idle (fun _ => rfl) (fun p => ?_) fun _ => rfl
      rw [size?, named]
      split_ifs <;> rfl
  | favorite package => exact form.flip favoritesFound package

/-! ## Documents of one closed form -/

private theorem plain_entryOf {widgets : Fields} (plain : (Value.object widgets).Plain) (package : String) :
    (Value.object (Preferences.entryOf widgets package)).Plain := by
  unfold Preferences.entryOf
  split
  · next found => exact plain.of_get? found
  · exact ⟨⟨List.nodup_nil, trivial⟩, rfl⟩

private theorem plain_flippedTimes {start : Option Value} (plain : ∀ v, start = some v → v.Plain) (times : Nat) :
    ∀ v, flippedTimes times start = some v → v.Plain := by
  intro v found
  unfold flippedTimes at found
  split_ifs at found
  · exact plain v found
  · cases found
    exact ⟨trivial, rfl⟩

private theorem plain_fieldAfter {start : Fields} (plain : (Value.object start).Plain) (calls : List KeyedCall)
    (package field : String) : ∀ v, fieldAfter calls package start field = some v → v.Plain := by
  have before : ∀ v, start.get? field = some v → v.Plain := fun v found => plain.of_get? found
  intro v found
  unfold fieldAfter at found
  split_ifs at found
  · exact plain_flippedTimes before _ v found
  · cases size : lastSize? package calls with
    | none =>
      rw [size] at found
      exact before v found
    | some size =>
      rw [size] at found
      cases found
      exact ⟨trivial, rfl⟩
  · exact before v found

/-- The same plain value under a name of two objects, or none. -/
private theorem alike_of_same {a b : Fields} {key : String} {x : Option Value} (first : a.get? key = x)
    (second : b.get? key = x) (plain : ∀ v, x = some v → v.Plain) :
    (a.get? key = none ∧ b.get? key = none) ∨ ∃ v w, a.get? key = some v ∧ b.get? key = some w ∧ v.alike w = true := by
  cases x with
  | none => exact .inl ⟨first, second⟩
  | some v => exact .inr ⟨v, v, first, second, Value.alike_self (plain v rfl).1 (plain v rfl).2⟩

private theorem nodup_of_proper {fields : Fields} (proper : (Value.object fields).Proper) :
    (Entries.names fields).Nodup := (Value.proper_object_iff.mp proper).1

/-- The closed form settles a document up to the order of names. -/
theorem ClosedForm.alike {calls : List KeyedCall} {start a b : Fields} (form : ClosedForm calls start a)
    (form' : ClosedForm calls start b) (plain : (Value.object start).Proper ∧ (Value.object start).settled = .object start)
    (proper : (Value.object a).Proper) (proper' : (Value.object b).Proper) : Fields.alike a b = true := by
  obtain ⟨before, widgets, found, there, forms⟩ := form.widgets
  obtain ⟨_, widgets', found', there', forms'⟩ := form'.widgets
  rw [found] at found'
  cases found'
  obtain ⟨first, favorites, begun, held, flipped⟩ := form.favorites
  obtain ⟨_, favorites', begun', held', flipped'⟩ := form'.favorites
  rw [begun] at begun'
  cases begun'
  have start_widgets : (Value.object before).Plain := Value.Plain.of_get? plain found
  have start_favorites : (Value.object first).Plain := Value.Plain.of_get? plain begun
  refine Value.alike_of_get? (nodup_of_proper proper) (nodup_of_proper proper') fun key => ?_
  by_cases at_widgets : key = Preferences.widgetsKey
  · subst at_widgets
    refine .inr ⟨_, _, there, there', ?_⟩
    refine Value.alike_of_get? (nodup_of_proper (proper.of_get? there)) (nodup_of_proper (proper'.of_get? there'))
      fun package => ?_
    by_cases touched : calls.countP (toggles package) ≠ 0 ∨ lastSize? package calls ≠ none
    · obtain ⟨entry, stands, fields⟩ := (forms package).touched touched
      obtain ⟨entry', stands', fields'⟩ := (forms' package).touched touched
      refine .inr ⟨_, _, stands, stands', ?_⟩
      refine Value.alike_of_get? (nodup_of_proper ((proper.of_get? there).of_get? stands))
        (nodup_of_proper ((proper'.of_get? there').of_get? stands')) fun field => ?_
      exact alike_of_same (fields field) (fields' field)
        (plain_fieldAfter (plain_entryOf start_widgets package) calls package field)
    · simp only [not_or, Decidable.not_not] at touched
      exact alike_of_same ((forms package).untouched touched.1 touched.2) ((forms' package).untouched touched.1 touched.2)
        fun v stands => start_widgets.of_get? stands
  by_cases at_favorites : key = Preferences.favoritesKey
  · subst at_favorites
    refine .inr ⟨_, _, held, held', ?_⟩
    refine Value.alike_of_get? (nodup_of_proper (proper.of_get? held)) (nodup_of_proper (proper'.of_get? held'))
      fun package => ?_
    exact alike_of_same (flipped package) (flipped' package)
      (plain_flippedTimes (fun v stands => start_favorites.of_get? stands) _)
  · exact alike_of_same (form.others key at_widgets at_favorites) (form'.others key at_widgets at_favorites)
      fun v stands => Value.Plain.of_get? plain stands

/-! ## Any calls -/

/-- Whether a call flips a favorite. -/
def isFavorite : KeyedCall → Bool
  | .favorite _ => true
  | _ => false

/-- The calls that were made: those of the caller in their order and, among them, favorites that
listeners flipped. -/
structure Includes (all calls : List KeyedCall) : Prop where
  order : calls.Sublist all
  rest : all.filter (!·.isFavorite) = calls.filter (!·.isFavorite)

theorem Includes.refl (calls : List KeyedCall) : Includes calls calls := ⟨List.Sublist.refl calls, rfl⟩

theorem Includes.append {all calls : List KeyedCall} (includes : Includes all calls) (call : KeyedCall) :
    Includes (all ++ [call]) (calls ++ [call]) :=
  ⟨includes.order.append (List.Sublist.refl _), by rw [List.filter_append, List.filter_append, includes.rest]⟩

theorem Includes.nested {all calls : List KeyedCall} (includes : Includes all calls) (package : String) :
    Includes (all ++ [.favorite package]) calls :=
  ⟨includes.order.trans (List.sublist_append_left all _), by rw [List.filter_append, includes.rest]; simp [isFavorite]⟩

/-- A store that got from a document to its own by the calls of a caller and those of listeners, of
which there were at most so many with the favorites still to come. -/
private structure Reached (start : Fields) (calls : List KeyedCall) (bound favorites : Nat) (run : Run σ) : Prop where
  made : ∃ all, Includes all calls ∧ all.length + favorites ≤ bound ∧ ClosedForm all start run.store.document
  proper : (Value.object start).Proper → (Value.object run.store.document).Proper

/-- One more call that was committed, whether the caller's or a listener's. -/
private theorem closedForm_commit {start : Fields} {all : List KeyedCall} {run : Run σ}
    (form : ClosedForm all start run.store.document)
    (proper : (Value.object start).Proper → (Value.object run.store.document).Proper) (call : KeyedCall)
    {widgets favorites : Fields}
    (widgetsFound : run.store.document.get? Preferences.widgetsKey = some (.object widgets))
    (favoritesFound : run.store.document.get? Preferences.favoritesKey = some (.object favorites)) :
    let after := (Run.commit Run.silent (call.written run.store.document widgets favorites) run).2
    ClosedForm (all ++ [call]) start after.store.document ∧
      ((Value.object start).Proper → (Value.object after.store.document).Proper) := by
  intro after
  have document : after.store.document = call.written run.store.document widgets favorites :=
    Run.document_commit_silent _ run
  rw [document]
  exact ⟨form.written call widgetsFound favoritesFound,
    fun ok => proper_written call (proper ok) widgetsFound favoritesFound⟩

private theorem kept_reached (start : Fields) (calls : List KeyedCall) (bound : Nat) :
    Run.Kept fun favorites (run : Run σ) => run.Alone ∧ Reached start calls bound favorites run where
  alone holds := holds.1
  fewer := by
    rintro favorites fewer run less ⟨alone, ⟨all, includes, few, form⟩, proper⟩
    exact ⟨alone, ⟨all, includes, by omega, form⟩, proper⟩
  same := by
    rintro favorites run other ⟨alone, made, proper⟩ same
    rw [← same.document] at made proper
    exact ⟨same.alone alone, made, proper⟩
  nested := by
    rintro favorites run package changes ⟨alone, ⟨all, includes, few, form⟩, proper⟩ asked
    obtain ⟨_, widgets, _, widgetsFound, _⟩ := form.widgets
    obtain ⟨_, favorites, _, favoritesFound, _⟩ := form.favorites
    rw [Preferences.flipped_of_favorites favoritesFound] at asked
    cases asked
    obtain ⟨form', proper'⟩ := closedForm_commit form proper (.favorite package) widgetsFound favoritesFound
    refine ⟨Run.alone_commit_silent alone, ⟨all ++ [.favorite package], includes.nested package, ?_, form'⟩, proper'⟩
    rw [List.length_append, List.length_singleton]
    omega

/-- An announcement leaves no more than the favorites of listeners behind. -/
private theorem Reached.announce {start : Fields} {calls : List KeyedCall} {bound : Nat} {run : Run σ}
    (reached : Reached start calls bound run.pending run) (apart : run.pending = 0 ∨ run.Alone) (new old : Fields) :
    Reached start calls bound (Run.announce new old run).pending (Run.announce new old run) ∧
      ((Run.announce new old run).pending = 0 ∨ (Run.announce new old run).Alone) := by
  rcases apart with quiet | alone
  · obtain ⟨document, quiet'⟩ := Run.announce_quiet new old quiet
    obtain ⟨⟨all, includes, few, form⟩, proper⟩ := reached
    refine ⟨⟨⟨all, includes, by omega, ?_⟩, ?_⟩, .inl quiet'⟩
    · rw [document]
      exact form
    · rw [document]
      exact proper
  · obtain ⟨alone', reached'⟩ := (kept_reached start calls bound).announce new old 0 ⟨alone, reached⟩
    exact ⟨reached', .inr alone'⟩

private theorem reached_act {start : Fields} {calls : List KeyedCall} {bound : Nat} {run : Run σ}
    (reached : Reached start calls bound run.pending run) (apart : run.pending = 0 ∨ run.Alone) (call : KeyedCall) :
    Reached start (calls ++ [call]) (bound + 1) (call.act run).2.pending (call.act run).2 ∧
      ((call.act run).2.pending = 0 ∨ (call.act run).2.Alone) := by
  obtain ⟨⟨all, includes, few, form⟩, proper⟩ := reached
  obtain ⟨_, widgets, _, widgetsFound, _⟩ := form.widgets
  obtain ⟨_, favorites, _, favoritesFound, _⟩ := form.favorites
  have more : (all ++ [call]).length + run.pending ≤ bound + 1 := by
    rw [List.length_append, List.length_singleton]
    omega
  rcases act_cases call widgetsFound favoritesFound with committed | ⟨nothing, same⟩
  · rw [committed]
    obtain ⟨form', proper'⟩ := closedForm_commit form proper call widgetsFound favoritesFound
    refine Reached.announce ⟨⟨all ++ [call], includes.append call, ?_, form'⟩, proper'⟩ ?_ _ _
    · rw [Run.pending_commit_silent]
      exact more
    · rw [Run.pending_commit_silent]
      exact apart.imp_right Run.alone_commit_silent
  · have form' := form.written call widgetsFound favoritesFound
    rw [same] at form'
    rw [nothing]
    exact ⟨⟨⟨all ++ [call], includes.append call, more, form'⟩, proper⟩, apart⟩

private theorem reached_actAll {run : Run σ} (apart : run.pending = 0 ∨ run.Alone)
    (widgets : (Value.underName run.store.document Preferences.widgetsKey).isObject = true)
    (favorites : (Value.underName run.store.document Preferences.favoritesKey).isObject = true)
    (calls : List KeyedCall) :
    Reached run.store.document calls (calls.length + run.pending) (actAll calls run).pending (actAll calls run) ∧
      ((actAll calls run).pending = 0 ∨ (actAll calls run).Alone) := by
  induction calls using List.reverseRecOn with
  | nil => exact ⟨⟨⟨[], .refl [], by simp [actAll], .nil widgets favorites⟩, id⟩, apart⟩
  | append_singleton calls call ih =>
    have step := reached_act ih.1 ih.2 call
    rw [actAll, List.foldl_append, List.length_append, List.length_singleton, Nat.add_right_comm]
    exact step

/-- Whatever calls are made and whatever becomes of their writes, the document has the closed form of
the calls. Listeners of a store by itself may put in favorites of their own, no more than they had
to make; where they had none, the calls are all. If no computed NaN was in the document to begin
with, it is alike to every document of that form. -/
theorem closedForm_actAll {run : Run σ} (apart : run.pending = 0 ∨ run.Alone)
    (widgets : (Value.underName run.store.document Preferences.widgetsKey).isObject = true)
    (favorites : (Value.underName run.store.document Preferences.favoritesKey).isObject = true)
    (calls : List KeyedCall) :
    ∃ all, Includes all calls ∧ all.length ≤ calls.length + run.pending ∧ (run.pending = 0 → all = calls) ∧
      ClosedForm all run.store.document (actAll calls run).store.document ∧
      ((Value.object run.store.document).Proper →
        (∀ part, (Value.object run.store.document).Part part → part ≠ .float (.nan true)) →
        ∀ other, ClosedForm all run.store.document other → (Value.object other).Proper →
          (actAll calls run).store.document.alike other = true) := by
  obtain ⟨⟨⟨all, includes, few, form⟩, proper⟩, _⟩ := reached_actAll apart widgets favorites calls
  refine ⟨all, includes, by omega, fun quiet => ?_, form, fun start numbers other form' proper' => ?_⟩
  · exact (includes.order.eq_of_length_le (by omega)).symm
  · exact form.alike form' ⟨start, Value.settled_eq_self_iff.mpr numbers⟩ (proper start) proper'

/-- Writes are refused, an entry is no object at first and one size is none: the form is that of the calls. -/
theorem closedForm_of_refused_writes :
    let run : Run Memory := {
      device := { refusesWrites := true }
      store := {
        storage := Memory.storage
        document := [
          ("favoriteApps", .object [("a", .int 2)]), ("theme", .null), ("widgetSettings", .object [("a", .text "odd")])] } }
    let calls : List KeyedCall :=
      [.toggle "a", .favorite "a", .resize "b" (.text "large"), .toggle "a", .resize "b" (.text "vast"), .toggle "a"]
    run.pending = 0 ∧ (Value.underName run.store.document Preferences.widgetsKey).isObject = true ∧
      (Value.underName run.store.document Preferences.favoritesKey).isObject = true ∧
      ClosedForm calls run.store.document (actAll calls run).store.document ∧
      (actAll calls run).store.document =
        [("favoriteApps", .object [("a", .bool false)]), ("theme", .null),
          ("widgetSettings", .object [("a", .object [("hide", .bool true)]), ("b", .object [("size", .text "large")])])] := by
  intro run calls
  have none : run.pending = 0 ∨ run.Alone := .inl rfl
  obtain ⟨all, _, _, quiet, form, _⟩ := closedForm_actAll none rfl rfl calls
  have made : all = calls := quiet rfl
  subst made
  exact ⟨rfl, rfl, rfl, form, by decide +kernel⟩

end KeyedCall

end HomeTiles
