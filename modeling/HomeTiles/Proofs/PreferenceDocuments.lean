import HomeTiles.Preferences
import HomeTiles.Proofs.TextValues

/-!
# Preference documents: what restoring and changing keep

`restore` turns any stored value into a document whose two maps are objects.
Doing it once more changes nothing (`restore_restore`), and it commutes with
settling: what a text gives back is restored to what the restored document's
text gives back (`restore_settled`). Restoring and the changes of one package
keep values proper.
-/

namespace HomeTiles

theorem Value.underName_settledFields (fields : Fields) (key : String) :
    Value.underName (Value.settledFields fields) key = (Value.underName fields key).settled := by
  rw [Value.underName, Value.underName, Value.get?_settledFields]
  cases Entries.get? fields key <;> rfl

/-- A name under which there is an object is in the fields. -/
theorem Value.get?_of_isObject {fields : Fields} {key : String} (object : (Value.underName fields key).isObject = true) :
    ∃ entries, fields.get? key = some (.object entries) := by
  unfold Value.underName at object
  cases found : fields.get? key with
  | none =>
    rw [found] at object
    cases object
  | some v =>
    rw [found] at object
    cases v with
    | object entries => exact ⟨entries, rfl⟩
    | _ => cases object

namespace Preferences

/-! ## Repairing a map -/

theorem repaired_eq (fields : Fields) (key : String) :
    (repaired fields key).1 =
      if (Value.underName fields key).isObject then fields else fields.put key (.object []) := by
  unfold repaired
  split_ifs <;> rfl

theorem repaired_of_isObject {fields : Fields} {key : String} (object : (Value.underName fields key).isObject = true) :
    (repaired fields key).1 = fields := by
  rw [repaired_eq, if_pos object]

/-- After repairing a map it is an object, and other maps are as they were. -/
theorem underName_repaired (fields : Fields) (key other : String) :
    (Value.underName (repaired fields key).1 other).isObject =
      (decide (key = other) || (Value.underName fields other).isObject) := by
  rw [repaired_eq]
  split_ifs with object
  · by_cases same : key = other
    · subst same
      simp [object]
    · simp [same]
  · rw [Value.underName, Entries.get?_put]
    by_cases same : key = other
    · subst same
      simp [Value.ofOption, Value.isObject, Value.fields?]
    · simp [same, Value.underName]

theorem proper_repaired {fields : Fields} (proper : (Value.object fields).Proper) (key : String) :
    (Value.object (repaired fields key).1).Proper := by
  rw [repaired_eq]
  split_ifs
  · exact proper
  · exact proper.put key ⟨List.nodup_nil, trivial⟩

theorem repaired_settled (fields : Fields) (key : String) :
    (repaired (Value.settledFields fields) key).1 = Value.settledFields (repaired fields key).1 := by
  rw [repaired_eq, repaired_eq, Value.underName_settledFields, Value.isObject_settled]
  split_ifs
  · rfl
  · rw [Value.settledFields_eq, Value.settledFields_eq, ← Entries.put_mapValues]
    rfl

theorem names_repaired {fields : Fields} {key : String} (inside : key ∈ Entries.names fields) :
    Entries.names (repaired fields key).1 = Entries.names fields := by
  rw [repaired_eq]
  split_ifs
  · rfl
  · rw [Entries.names_put, if_pos inside]

/-! ## Restoring -/

theorem restore_object (fields : Fields) :
    (restore (.object fields)).1 = (repaired (repaired (defaults.merge fields) widgetsKey).1 favoritesKey).1 := rfl

theorem restore_other {v : Value} (other : v.isObject = false) : (restore v).1 = defaults := by
  cases v with
  | object fields => cases other
  | _ => rfl

theorem proper_defaults : (Value.object defaults).Proper :=
  ⟨by decide, ⟨List.nodup_nil, trivial⟩, ⟨List.nodup_nil, trivial⟩, trivial⟩

theorem proper_restore {v : Value} (proper : v.Proper) : (Value.object (restore v).1).Proper := by
  cases object : v.isObject with
  | false =>
    rw [restore_other object]
    exact proper_defaults
  | true =>
    cases v with
    | object fields => exact proper_repaired (proper_repaired (proper_defaults.merge proper) widgetsKey) favoritesKey
    | _ => cases object

/-- Both maps of a restored document are objects. -/
theorem maps_restore (v : Value) :
    (Value.underName (restore v).1 widgetsKey).isObject = true ∧
    (Value.underName (restore v).1 favoritesKey).isObject = true := by
  cases object : v.isObject with
  | false =>
    rw [restore_other object]
    decide
  | true =>
    cases v with
    | object fields =>
      rw [restore_object, underName_repaired, underName_repaired, underName_repaired]
      simp
    | _ => cases object

/-- What a text gives back is restored to what the restored document gives back. -/
theorem restore_settled (v : Value) : (restore v.settled).1 = Value.settledFields (restore v).1 := by
  cases object : v.isObject with
  | false =>
    rw [restore_other object, restore_other (by rw [Value.isObject_settled, object])]
    rfl
  | true =>
    cases v with
    | object fields =>
      have merged : defaults.merge (Value.settledFields fields) = Value.settledFields (defaults.merge fields) := by
        rw [Value.settledFields_eq, Value.settledFields_eq, ← Entries.merge_mapValues]
        rfl
      rw [Value.settled, restore_object, restore_object, merged, repaired_settled, repaired_settled]
    | _ => cases object

private theorem names_restore {fields : Fields} (distinct : (Entries.names fields).Nodup) :
    Entries.names (restore (.object fields)).1 =
      Entries.names defaults ++ (Entries.names fields).filter (· ∉ Entries.names defaults) := by
  have merged := Entries.names_merge defaults distinct
  have widgets : widgetsKey ∈ Entries.names (defaults.merge fields) := by
    rw [merged]
    exact List.mem_append_left _ (by decide)
  have favorites : favoritesKey ∈ Entries.names (repaired (defaults.merge fields) widgetsKey).1 := by
    rw [names_repaired widgets, merged]
    exact List.mem_append_left _ (by decide)
  rw [restore_object, names_repaired favorites, names_repaired widgets, merged]

/-- Restoring a restored document changes nothing. -/
theorem restore_restore {v : Value} (proper : v.Proper) : (restore (.object (restore v).1)).1 = (restore v).1 := by
  obtain ⟨widgets, favorites⟩ := maps_restore v
  have distinct := (Value.proper_object_iff.mp (proper_restore proper)).1
  have order : ∃ rest : List String, Entries.names (restore v).1 =
      Entries.names defaults ++ rest.filter (· ∉ Entries.names defaults) := by
    cases object : v.isObject with
    | false => exact ⟨[], by rw [restore_other object]; rfl⟩
    | true =>
      cases v with
      | object fields => exact ⟨_, names_restore (Value.proper_object_iff.mp proper).1⟩
      | _ => cases object
  have merged : defaults.merge (restore v).1 = (restore v).1 := by
    obtain ⟨rest, order⟩ := order
    refine Entries.ext_get? (Entries.nodup_merge (by decide) _) ?_ fun key => ?_
    · rw [Entries.names_merge defaults distinct, order, List.filter_append, List.filter_filter]
      simp
    · rw [Entries.get?_merge defaults distinct]
      cases found : Entries.get? (restore v).1 key with
      | some w => rfl
      | none =>
        have missing := Entries.get?_eq_none_iff.mp found
        rw [order, List.mem_append, not_or] at missing
        rw [Option.none_or, Entries.get?_eq_none_iff]
        exact missing.1
  rw [restore_object, merged, repaired_of_isObject widgets, repaired_of_isObject favorites]

/-! ## Changes of one package -/

theorem proper_entryOf {widgets : Fields} (proper : (Value.object widgets).Proper) (package : String) :
    (Value.object (entryOf widgets package)).Proper := by
  unfold entryOf
  split
  · next found => exact proper.of_get? found
  · exact ⟨List.nodup_nil, trivial⟩

/-- An object with one entry is proper if the entry is. -/
private theorem proper_single {v : Value} (proper : v.Proper) (key : String) : (Value.object [(key, v)]).Proper :=
  ⟨List.nodup_singleton key, proper, trivial⟩

theorem toggled_of_widgets {document widgets : Fields} (found : document.get? widgetsKey = some (.object widgets))
    (package : String) :
    toggled package document = .ok (.object [(widgetsKey, .object (Entries.put widgets package (.object
      ((entryOf widgets package).put "hide" (.bool (!(Value.underName (entryOf widgets package) "hide").truthy))))))]) := by
  simp only [toggled, Value.underName, found, Value.ofOption]

theorem resized_of_widgets {document widgets : Fields} (found : document.get? widgetsKey = some (.object widgets))
    (package : String) (size : WidgetSize) :
    resized package size document = .ok (.object [(widgetsKey, .object (Entries.put widgets package (.object
      ((entryOf widgets package).put "size" (.text size.label)))))]) := by
  simp only [resized, Value.underName, found, Value.ofOption]

theorem flipped_of_favorites {document favorites : Fields}
    (found : document.get? favoritesKey = some (.object favorites)) (package : String) :
    flipped package document = .ok (.object [(favoritesKey, .object (Entries.put favorites package
      (.bool (!(Value.underName favorites package).truthy))))]) := by
  simp only [flipped, Value.underName, found, Value.ofOption]

/-- A widget is hidden, shown or resized only where the widgets are an object. -/
theorem widgets_of_toggled {document : Fields} {package : String} {changes : Value}
    (asked : toggled package document = .ok changes) :
    ∃ widgets, document.get? widgetsKey = some (.object widgets) := by
  unfold toggled at asked
  split at asked
  · next found => exact Value.get?_of_isObject (found ▸ rfl)
  · cases asked

theorem widgets_of_resized {document : Fields} {package : String} {size : WidgetSize} {changes : Value}
    (asked : resized package size document = .ok changes) :
    ∃ widgets, document.get? widgetsKey = some (.object widgets) := by
  unfold resized at asked
  split at asked
  · next found => exact Value.get?_of_isObject (found ▸ rfl)
  · cases asked

/-- A favorite is made only where the favorites are an object. -/
theorem favorites_of_flipped {document : Fields} {package : String} {changes : Value}
    (asked : flipped package document = .ok changes) :
    ∃ favorites, document.get? favoritesKey = some (.object favorites) := by
  unfold flipped at asked
  split at asked
  · next found => exact Value.get?_of_isObject (found ▸ rfl)
  · cases asked

theorem proper_toggled {document : Fields} (proper : (Value.object document).Proper) {package : String} {changes : Value}
    (asked : toggled package document = .ok changes) : changes.Proper := by
  obtain ⟨widgets, found⟩ := widgets_of_toggled asked
  rw [toggled_of_widgets found] at asked
  cases asked
  have ok : (Value.object widgets).Proper := proper.of_get? found
  refine proper_single (ok.put _ ?_) widgetsKey
  exact (proper_entryOf ok package).put _ trivial

theorem proper_resized {document : Fields} (proper : (Value.object document).Proper) {package : String}
    {size : WidgetSize} {changes : Value} (asked : resized package size document = .ok changes) : changes.Proper := by
  obtain ⟨widgets, found⟩ := widgets_of_resized asked
  rw [resized_of_widgets found] at asked
  cases asked
  have ok : (Value.object widgets).Proper := proper.of_get? found
  refine proper_single (ok.put _ ?_) widgetsKey
  exact (proper_entryOf ok package).put _ trivial

theorem proper_flipped {document : Fields} (proper : (Value.object document).Proper) {package : String} {changes : Value}
    (asked : flipped package document = .ok changes) : changes.Proper := by
  obtain ⟨favorites, found⟩ := favorites_of_flipped asked
  rw [flipped_of_favorites found] at asked
  cases asked
  have ok : (Value.object favorites).Proper := proper.of_get? found
  refine proper_single ?_ favoritesKey
  exact ok.put _ trivial

/-! ## Maps from lists of pairs -/

private theorem proper_pairOf {index : Nat} {item v : Value} {name : String} (proper : item.Proper)
    (paired : pairOf index item = .ok (name, v)) : v.Proper := by
  unfold pairOf at paired
  split at paired
  · split at paired
    · cases paired
      trivial
    · cases paired
  · split at paired
    · cases paired
      exact proper.2.1
    · cases paired
  · cases paired
  · cases paired
    trivial
  · cases paired
  · cases paired

private theorem proper_pairsOver {entries fields : Fields} {index : Nat} {items : List Value}
    (base : (Value.object entries).Proper) (proper : (Value.array items).Proper)
    (made : pairsOver entries index items = .ok fields) : (Value.object fields).Proper := by
  induction items generalizing entries index with
  | nil =>
    cases made
    exact base
  | cons item rest ih =>
    rw [pairsOver] at made
    split at made
    · cases made
    · next paired => exact ih (base.put _ (proper_pairOf proper.1 paired)) proper.2 made

theorem proper_mapOf {v : Value} {fields : Fields} (proper : v.Proper) (made : mapOf v = .ok fields) :
    (Value.object fields).Proper := by
  have empty : (Value.object []).Proper := ⟨List.nodup_nil, trivial⟩
  unfold mapOf at made
  split at made
  · cases made
    exact proper
  · exact proper_pairsOver empty proper made
  · split_ifs at made
    · cases made
      exact empty
  · cases made

end Preferences
end HomeTiles
