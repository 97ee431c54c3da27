import ModelCompiler.Model.Tables
import ModelCompiler.Proofs.Element.Fields
import ModelCompiler.Proofs.Model.Identity

/-!
# What the tables of a model hold

Main statement: the tables share the elements of the graph out among them, each list goes with its
table, and the tables gone through along their lists are the lists of the model.

A pass over the graph enters what its elements are one after the other.  Since each has an
identifier of its own, nothing that is entered covers an earlier entry.
-/

namespace ModelCompiler

/-- What a model has of a kind. -/
def Model.entities (m : Model) : Entity.Kind → List Entity
  | .structural => m.classes.map .structural
  | .enumeration => m.enumerations.map .enumeration
  | .generalization => m.generalizations.map .generalization
  | .association => m.associations.map .association
  | .property => m.properties.map .property
  | .operation => m.operations.map .operation
  | .extension => m.extensions.map .extension

/-! ## Entries -/

namespace Tables

variable (t : Tables) (x : Entity) (k : Entity.Kind) (id : String)

/-- What is entered is found in its table, under its identifier, and nothing else changes. -/
theorem find?_enter :
    (t.enter x).find? k id = if x.kind = k ∧ id = x.id then some x else t.find? k id := by
  cases x <;> cases k <;>
    simp [enter, find?, Entity.kind, Entity.id, lookup_cons_eq, apply_ite (Option.map _)]

theorem order?_enter :
    (t.enter x).order? k = (t.order? k).map (· ++ if x.kind = k then [x.id] else []) := by
  cases x <;> cases k <;> simp [enter, order?, Entity.kind, Entity.id]

variable {t k id}

theorem order?_foldl_enter (xs : List Entity) :
    (xs.foldl enter t).order? k =
      (t.order? k).map (· ++ (xs.filter (·.kind = k)).map Entity.id) := by
  induction xs generalizing t with
  | nil => simp
  | cons x xs ih =>
    rw [List.foldl_cons, ih, order?_enter, Option.map_map]
    congr 1
    funext order
    by_cases same : x.kind = k <;> simp [same]

/-- What is entered under identifiers of its own is found and nothing else. -/
theorem find?_foldl_enter {xs : List Entity} (own : (xs.map Entity.id).Nodup) {x : Entity} :
    (xs.foldl enter {}).find? k id = some x ↔ x ∈ xs ∧ x.kind = k ∧ x.id = id := by
  induction xs using List.reverseRecOn with
  | nil => cases k <;> simp [find?]
  | append_singleton xs y ih =>
    rw [List.map_append, List.nodup_append] at own
    obtain ⟨earlier, -, apart⟩ := own
    have other : ∀ z ∈ xs, z.id ≠ y.id := fun z hz =>
      apart z.id (List.mem_map_of_mem hz) y.id (by simp)
    rw [List.foldl_append, List.foldl_cons, List.foldl_nil, find?_enter]
    split
    · rename_i entered
      obtain ⟨rfl, rfl⟩ := entered
      constructor
      · rintro ⟨⟩
        simp
      · rintro ⟨hx, -, same⟩
        rcases List.mem_append.1 hx with early | last
        · exact absurd same (other x early)
        · rw [List.mem_singleton.1 last]
    · rename_i unlike
      rw [ih earlier, List.mem_append]
      constructor
      · rintro ⟨hx, kind, same⟩
        exact ⟨.inl hx, kind, same⟩
      · rintro ⟨early | last, kind, same⟩
        · exact ⟨early, kind, same⟩
        · rw [List.mem_singleton.1 last] at kind same
          exact absurd ⟨kind, same.symm⟩ unlike

end Tables

/-! ## Tables of a graph -/

section

variable {cv : Conventions} {g : Graph} {k : Entity.Kind}

theorem Entity.ofElement?_eq_none_iff {e : Element} : Entity.ofElement? cv g e = none ↔
    e.type ∉ ["Class", "Generalization", "Association", "Property", "Operation", "Extension"] ∨
      e.type = "Class" ∧ e.name = "" := by
  unfold Entity.ofElement?
  split
  · split
    · simp_all
    · split <;> simp_all
  all_goals simp_all

theorem Graph.ids_entities_nodup (cv : Conventions) (g : Graph) :
    ((g.elements.filterMap (Entity.ofElement? cv g)).map Entity.id).Nodup :=
  (map_filterMap_sublist Element.id Entity.id (fun _ _ => Entity.id_of_ofElement?)
    g.elements).nodup g.ids_nodup

theorem map_filterMap_kind {α : Type} {pick : Entity → Option α} {wrap : α → Entity}
    (back : ∀ x, (pick x).map wrap = if x.kind = k then some x else none) (xs : List Entity) :
    (xs.filterMap pick).map wrap = xs.filter (·.kind = k) := by
  rw [List.map_filterMap, ← List.filterMap_eq_filter]
  refine List.filterMap_congr fun x _ => ?_
  rw [back, Option.guard]
  simp only [decide_eq_true_eq]

/-- The lists of a model are what the elements are, by kind. -/
theorem Model.entities_ofGraph : (Model.ofGraph cv g).entities k =
    (g.elements.filterMap (Entity.ofElement? cv g)).filter (·.kind = k) := by
  cases k <;> exact map_filterMap_kind (fun x => by cases x <;> rfl) _

namespace Tables

theorem ofGraph_eq :
    ofGraph cv g = (g.elements.filterMap (Entity.ofElement? cv g)).foldl enter {} := by
  rw [List.foldl_filterMap, ofGraph]
  congr 1
  funext t e
  unfold step
  cases Entity.ofElement? cv g e <;> rfl

theorem find?_eq_some_iff {id : String} {x : Entity} : (ofGraph cv g).find? k id = some x ↔
    x ∈ (Model.ofGraph cv g).entities k ∧ x.id = id := by
  rw [ofGraph_eq, find?_foldl_enter (g.ids_entities_nodup cv), Model.entities_ofGraph,
    List.mem_filter, decide_eq_true_eq, and_assoc]

/-- Under the identifier of an element stands what it is, in the table of its kind. -/
theorem find?_id {e : Element} (he : e ∈ g.elements) :
    (ofGraph cv g).find? k e.id = (Entity.ofElement? cv g e).filter (·.kind = k) := by
  ext x
  rw [find?_eq_some_iff, Model.entities_ofGraph, List.mem_filter, List.mem_filterMap,
    Option.filter_eq_some_iff, decide_eq_true_eq]
  constructor
  · rintro ⟨⟨⟨d, hd, is⟩, kind⟩, same⟩
    obtain rfl : d = e := by
      refine List.inj_on_of_nodup_map g.ids_nodup hd he ?_
      rw [← same, Entity.id_of_ofElement? is]
    exact ⟨is, kind⟩
  · rintro ⟨is, kind⟩
    exact ⟨⟨⟨e, he, is⟩, kind⟩, Entity.id_of_ofElement? is⟩

/-- An element stands in one table at most. -/
theorem kind_eq_of_find? {e : Element} (he : e ∈ g.elements) {k' : Entity.Kind}
    (first : ((ofGraph cv g).find? k e.id).isSome)
    (second : ((ofGraph cv g).find? k' e.id).isSome) : k = k' := by
  simp only [find?_id he, Option.isSome_iff_exists, Option.filter_eq_some_iff,
    decide_eq_true_eq] at first second
  obtain ⟨x, is, kind⟩ := first
  obtain ⟨y, is', kind'⟩ := second
  rw [← kind, ← kind', Option.some.inj (is.symm.trans is')]

/-- What is nothing stands in no table, and what is something stands in one. -/
theorem forall_find?_eq_none_iff {e : Element} (he : e ∈ g.elements) :
    (∀ k, (ofGraph cv g).find? k e.id = none) ↔ Entity.ofElement? cv g e = none := by
  simp only [find?_id he]
  constructor
  · intro nowhere
    cases is : Entity.ofElement? cv g e with
    | none => rfl
    | some x => simpa [is] using nowhere x.kind
  · intro nothing k
    rw [nothing]
    rfl

theorem order?_ofGraph (listed : k ≠ .operation) :
    (ofGraph cv g).order? k = some (((Model.ofGraph cv g).entities k).map Entity.id) := by
  rw [ofGraph_eq, order?_foldl_enter, Model.entities_ofGraph]
  cases k <;> first | rfl | exact absurd rfl listed

theorem ids_entities : ((Model.ofGraph cv g).entities k).map Entity.id =
    (g.elements.filter fun e => ((ofGraph cv g).find? k e.id).isSome).map Element.id := by
  rw [Model.entities_ofGraph, List.filter_filterMap,
    map_filterMap_eq_map_filter Element.id Entity.id]
  · refine congrArg (List.map Element.id) (List.filter_congr fun e he => ?_)
    rw [find?_id he]
  · intro e x is
    exact Entity.id_of_ofElement? (Option.filter_eq_some_iff.1 is).1

/-- A list goes with the table of a kind: it has every identifier of the table once, in the order in
which the graph has the elements that stand in the table. -/
structure InStep (t : Tables) (g : Graph) (k : Entity.Kind) (order : List String) : Prop where
  nodup : order.Nodup
  mem_iff : ∀ id, id ∈ order ↔ (t.find? k id).isSome = true
  eq_filter : order = (g.elements.filter fun e => (t.find? k e.id).isSome).map Element.id

theorem inStep_ids :
    InStep (ofGraph cv g) g k (((Model.ofGraph cv g).entities k).map Entity.id) where
  nodup := by
    rw [ids_entities]
    exact (List.filter_sublist.map Element.id).nodup g.ids_nodup
  mem_iff id := by
    simp only [List.mem_map, Option.isSome_iff_exists, find?_eq_some_iff]
  eq_filter := ids_entities

/-- The entries of a table, gone through in the order of their entry. -/
theorem entities_eq : (Model.ofGraph cv g).entities k =
    (((Model.ofGraph cv g).entities k).map Entity.id).filterMap ((ofGraph cv g).find? k) := by
  rw [List.filterMap_map]
  refine (List.filterMap_some.symm.trans (List.filterMap_congr fun x hx => ?_))
  exact (find?_eq_some_iff.2 ⟨hx, rfl⟩).symm

/-! ## Classes in order -/

theorem lookup_classes_eq_some_iff {id : String} {c : Class} :
    (ofGraph cv g).classes.lookup id = some c ↔
      c ∈ (Model.ofGraph cv g).classes ∧ c.id = id := by
  have found : (ofGraph cv g).find? .structural id = some (.structural c) ↔ _ := find?_eq_some_iff
  simpa [find?, Model.entities, Entity.id] using found

theorem classOrder_ofGraph :
    (ofGraph cv g).classOrder = (Model.ofGraph cv g).classes.map (·.id) := by
  have order : (ofGraph cv g).order? .structural = _ := order?_ofGraph (by decide)
  simpa [order?, Model.entities, Entity.id, Function.comp_def] using order

section

variable {table : List (String × Class)}
  (part : ∀ id c, table.lookup id = some c → (ofGraph cv g).classes.lookup id = some c)

include part

theorem eq_of_lookup {c d : Class} (hc : c ∈ (Model.ofGraph cv g).classes)
    (found : table.lookup c.id = some d) : d = c := by
  obtain ⟨hd, same⟩ := lookup_classes_eq_some_iff.1 (part c.id d found)
  exact Model.eq_of_id_eq hd hc same

theorem orderedClasses_eq : (ofGraph cv g).orderedClasses table =
    (Model.ofGraph cv g).classes.filter fun c => (table.lookup c.id).isSome := by
  rw [orderedClasses, classOrder_ofGraph, List.filterMap_map, ← List.filterMap_eq_filter]
  refine List.filterMap_congr fun c hc => ?_
  show table.lookup c.id = _
  cases found : table.lookup c.id with
  | none => simp [Option.guard, found]
  | some d => simp [Option.guard, found, eq_of_lookup part hc found]

theorem nodup_orderedClasses : ((ofGraph cv g).orderedClasses table).Nodup := by
  rw [orderedClasses_eq part]
  exact (List.Nodup.of_map _ (Model.ids_classes_ofGraph_nodup cv g)).filter _

theorem mem_orderedClasses {c : Class} :
    c ∈ (ofGraph cv g).orderedClasses table ↔ ∃ id, table.lookup id = some c := by
  rw [orderedClasses_eq part, List.mem_filter, Option.isSome_iff_exists]
  constructor
  · rintro ⟨hc, d, found⟩
    exact ⟨c.id, eq_of_lookup part hc found ▸ found⟩
  · rintro ⟨id, found⟩
    obtain ⟨hc, rfl⟩ := lookup_classes_eq_some_iff.1 (part id c found)
    exact ⟨hc, c, found⟩

theorem ids_orderedClasses : ((ofGraph cv g).orderedClasses table).map (·.id) =
    (g.elements.filter fun e => (table.lookup e.id).isSome).map Element.id := by
  have listed : ((Model.ofGraph cv g).entities .structural).map Entity.id = _ := ids_entities
  have ids : (Model.ofGraph cv g).classes.map (·.id) =
      (g.elements.filter fun e => ((ofGraph cv g).classes.lookup e.id).isSome).map Element.id := by
    simpa [find?, Model.entities, Entity.id, Function.comp_def] using listed
  calc ((ofGraph cv g).orderedClasses table).map (·.id)
    _ = ((Model.ofGraph cv g).classes.map (·.id)).filter fun id => (table.lookup id).isSome := by
      rw [orderedClasses_eq part, List.filter_map]
      rfl
    _ = (g.elements.filter fun e => (table.lookup e.id).isSome).map Element.id := by
      rw [ids, List.filter_map, List.filter_filter]
      refine congrArg (List.map Element.id) (List.filter_congr fun e _ => ?_)
      -- what stands in the table stands among the classes
      cases found : table.lookup e.id with
      | none => simp [found]
      | some c => simp [found, part e.id c found]

end

/-- The tables share out the elements of a graph: each stands in one table at most, and in none if
and only if its type is no type of a kind or it is a class without a name.  The list beside a table
has the identifiers of the table, each once and in the order of the graph, and leads to what the
model has of that kind.  So a table of some of the classes, gone through along the list of classes,
gives each of its classes once, in the order of the graph, and these are the classes of the model
that stand in it. -/
theorem tables_share_elements (cv : Conventions) (g : Graph) :
    let t := Tables.ofGraph cv g
    let m := Model.ofGraph cv g
    (∀ e ∈ g.elements,
      (∀ k k', (t.find? k e.id).isSome → (t.find? k' e.id).isSome → k = k') ∧
      ((∀ k, t.find? k e.id = none) ↔
        e.type ∉ ["Class", "Generalization", "Association", "Property", "Operation",
            "Extension"] ∨
          e.type = "Class" ∧ e.name = "")) ∧
    (∀ k id x, t.find? k id = some x ↔ x ∈ m.entities k ∧ x.id = id) ∧
    (∀ k ≠ .operation, ∃ order, t.order? k = some order ∧ InStep t g k order ∧
      m.entities k = order.filterMap (t.find? k)) ∧
    ∀ table : List (String × Class),
      (∀ id c, table.lookup id = some c → t.classes.lookup id = some c) →
      (t.orderedClasses table).Nodup ∧
      (∀ c, c ∈ t.orderedClasses table ↔ ∃ id, table.lookup id = some c) ∧
      (t.orderedClasses table).map (·.id) =
        (g.elements.filter fun e => (table.lookup e.id).isSome).map Element.id ∧
      t.orderedClasses table = m.classes.filter fun c => (table.lookup c.id).isSome := by
  intro t m
  refine ⟨fun e he => ⟨fun k k' => kind_eq_of_find? he, ?_⟩, fun k id x => find?_eq_some_iff,
    fun k listed => ⟨_, order?_ofGraph listed, inStep_ids, entities_eq⟩,
    fun table part => ⟨nodup_orderedClasses part, fun c => mem_orderedClasses part,
      ids_orderedClasses part, orderedClasses_eq part⟩⟩
  rw [forall_find?_eq_none_iff he, Entity.ofElement?_eq_none_iff]

/-- Two classes, an enumeration and an operation, beside a class without a name and a package. -/
def depot : Graph where
  elements :=
    [{ id := "car", type := "Class", fields := [("name", .scalar "Car")] },
     { id := "paint", type := "Class", fields := [("name", .scalar "PaintKind")] },
     { id := "blank", type := "Class" },
     { id := "honk", type := "Operation", fields := [("name", .scalar "honk")] },
     { id := "wheel", type := "Class", fields := [("name", .scalar "Wheel")] },
     { id := "garage", type := "Package" }]
  ids_ne := by simp

/-- Of a table with one class only that class is given. -/
theorem tables_share_elements_depot :
    let t := Tables.ofGraph {} depot
    let wheel : Class := { id := "wheel", name := "Wheel" }
    (∀ k, (t.find? k "car").isSome → .structural = k) ∧
    (∀ k, t.find? k "blank" = none) ∧ (∀ k, t.find? k "garage" = none) ∧
    t.order? .structural = some ["car", "wheel"] ∧
    InStep t depot .structural ["car", "wheel"] ∧
    t.classes.lookup "wheel" = some wheel ∧
    (t.orderedClasses [("wheel", wheel)]).map (·.id) = ["wheel"] ∧
    ∀ c, c ∈ t.orderedClasses [("wheel", wheel)] ↔
      ∃ id, [("wheel", wheel)].lookup id = some c := by
  intro t wheel
  obtain ⟨shared, -, listed, ordered⟩ := tables_share_elements {} depot
  have entered : t.classes.lookup "wheel" = some wheel := by decide +kernel
  have part : ∀ id c, [("wheel", wheel)].lookup id = some c → t.classes.lookup id = some c := by
    intro id c found
    rw [lookup_cons_eq] at found
    split at found
    · rename_i same
      rw [same, ← found, entered]
    · cases found
  obtain ⟨order, isOrder, inStep, -⟩ := listed .structural (by decide)
  obtain rfl : order = ["car", "wheel"] := Option.some.inj (isOrder.symm.trans (by decide +kernel))
  obtain ⟨-, mem, ids, -⟩ := ordered [("wheel", wheel)] part
  have car := shared _ (List.mem_cons_self (l := depot.elements.tail))
  have blank := shared { id := "blank", type := "Class" } (by decide)
  have garage := shared { id := "garage", type := "Package" } (by decide)
  exact ⟨fun k => car.1 .structural k (by decide +kernel), blank.2.2 (.inr ⟨rfl, rfl⟩),
    garage.2.2 (.inl (by decide)), isOrder, inStep, entered, ids.trans (by decide +kernel), mem⟩

end Tables

end

end ModelCompiler
