import Mathlib.Data.List.Basic
import ModelCompiler.Schema.Basic

/-!
# What declarations make of a schema

Classes that are still bare get properties one after the other.  `holding` says what the schema is
at each moment of that, so a run of declarations is followed by the list of those made so far: the
number of a property is its place in that list.  `operating` and `linked` do the same for operations
and for the members of derived unions.
-/

namespace ModelCompiler.Schema

/-- How a property is made and the class to declare it on. -/
structure Declaration where
  owner : ClassId
  term : Construction
deriving DecidableEq, Repr

namespace Declaration

/-- The property once it is declared. -/
def property (d : Declaration) : Property := { d.term.property with owner? := some d.owner }

/-- What tells declarations apart: a class declares a name once. -/
def key (d : Declaration) : ClassId × String := (d.owner, d.term.name)

end Declaration

/-- Settings leave the name of a property. -/
theorem Property.name_new (name : String) (kind : PropertyKind) (settings : List Setting) :
    (new name kind settings).name = name := by
  have kept (p : Property) : (settings.foldl apply p).name = p.name := by
    induction settings generalizing p with
    | nil => rfl
    | cons x settings ih =>
      rw [List.foldl_cons, ih]
      cases x <;> rfl
  exact kept _

@[simp] theorem Construction.name_property (t : Construction) : t.property.name = t.name := by
  cases t <;> exact Property.name_new _ _ _

@[simp] theorem Declaration.name_property (d : Declaration) : d.property.name = d.term.name :=
  d.term.name_property

/-- Makes a property and declares it. -/
def declare (s : Schema) (d : Declaration) : Except Refusal Schema :=
  (s.makeProperty d.term).1.add d.owner (s.makeProperty d.term).2

/-- The numbers of the properties that are declared on a class. -/
def places (ds : List Declaration) (c : ClassId) : List PropertyId :=
  (ds.zipIdx.filter (·.1.owner == c)).map (·.2)

/-- The schema of bare classes on which properties have been declared. -/
def holding (classes : List Class) (ds : List Declaration) : Schema where
  classes := classes.mapIdx fun k c => { c with properties := places ds k }
  properties := ds.map (·.property)

theorem places_append (ds : List Declaration) (d : Declaration) (c : ClassId) :
    places (ds ++ [d]) c = places ds c ++ if d.owner = c then [ds.length] else [] := by
  by_cases h : d.owner = c
  · simp [places, List.zipIdx_append, h]
  · simp [places, List.zipIdx_append, h]

theorem mem_places {ds : List Declaration} {c : ClassId} {i : Nat} :
    i ∈ places ds c ↔ ∃ d, ds[i]? = some d ∧ d.owner = c := by
  simp [places, List.mem_zipIdx_iff_getElem?]

theorem declared_holding {classes : List Class} {c : ClassId} (hc : c < classes.length)
    (ds : List Declaration) : (holding classes ds).declared c = places ds c := by
  simp [declared, class?, holding, hc]

theorem names_holding (classes : List Class) (ds : List Declaration) :
    (holding classes ds).classes.map (·.name) = classes.map (·.name) := by
  apply List.ext_getElem?
  intro i
  simp [holding, Function.comp_def]

theorem property?_holding (classes : List Class) (ds : List Declaration) (i : Nat) :
    (holding classes ds).property? i = (ds[i]?).map (·.property) := by
  simp [property?, holding]

/-- The properties of a class are the declarations on it, in order. -/
theorem map_property?_declared_holding {classes : List Class} {c : ClassId}
    (hc : c < classes.length) (ds : List Declaration) :
    ((holding classes ds).declared c).map (holding classes ds).property? =
      (ds.filter (·.owner == c)).map fun d => some d.property := by
  rw [declared_holding hc, places, List.map_map]
  have each : ∀ x ∈ ds.zipIdx.filter (·.1.owner == c),
      ((holding classes ds).property? ∘ (·.2)) x = some x.1.property := by
    intro x hx
    have hi := List.mem_zipIdx_iff_getElem?.1 (List.mem_filter.1 hx).1
    simp [property?_holding, hi]
  have firsts : ds.filter (·.owner == c) = (ds.zipIdx.filter (·.1.owner == c)).map (·.1) := by
    conv_lhs => rw [← List.zipIdx_map_fst 0 ds, List.filter_map]
    rfl
  rw [List.map_congr_left each, firsts, List.map_map]
  rfl

/-! ## Declaring one more -/

/-- A name that has not been declared on a class is not found there. -/
theorem own?_makeProperty_holding (classes : List Class) {ds : List Declaration} {d : Declaration}
    (fresh : d.key ∉ ds.map (·.key)) :
    ((holding classes ds).makeProperty d.term).1.own? d.owner d.term.name = none := by
  rw [own?, List.find?_eq_none]
  intro i hi
  have hp : i ∈ places ds d.owner := by
    by_cases hc : d.owner < classes.length
    · exact declared_holding hc ds ▸ hi
    · simp [declared, class?, makeProperty, holding, hc] at hi
  obtain ⟨e, he, ho⟩ := mem_places.1 hp
  have hlt : i < ds.length := (List.getElem?_eq_some_iff.1 he).1
  have found : ((holding classes ds).makeProperty d.term).1.property? i = some e.property := by
    change (ds.map (·.property) ++ [d.term.property])[i]? = _
    rw [List.getElem?_append_left (by simpa using hlt), List.getElem?_map, he]
    rfl
  rw [found]
  intro same
  have same : e.term.name = d.term.name := by simpa using same
  exact fresh (List.mem_map.2 ⟨e, List.mem_of_getElem? he, Prod.ext ho same⟩)

theorem modify_length_append {α : Type} (l : List α) (a : α) (f : α → α) :
    (l ++ [a]).modify l.length f = l ++ [f a] := by
  induction l with
  | nil => rfl
  | cons b l ih => simpa using ih

/-- A declaration of a name that is new to its class is added to those made so far. -/
theorem declare_holding {classes : List Class} {ds : List Declaration} {d : Declaration}
    (fresh : d.key ∉ ds.map (·.key)) :
    (holding classes ds).declare d = .ok (holding classes (ds ++ [d])) := by
  have made : (holding classes ds).makeProperty d.term =
      ({ holding classes ds with
          properties := ds.map (·.property) ++ [d.term.property] }, (ds.map (·.property)).length) :=
    rfl
  have unknown := own?_makeProperty_holding classes fresh
  rw [made] at unknown
  rw [declare, made, add]
  simp only [property?, List.getElem?_concat_length, Option.map_some, Option.getD_some,
    Construction.name_property, unknown, Option.isSome_none, Bool.false_eq_true, if_false,
    modify_length_append]
  congr 1
  simp only [holding, Schema.mk.injEq]
  constructor
  · apply List.ext_getElem?
    intro k
    simp only [List.getElem?_modify, List.getElem?_mapIdx, places_append, List.length_map]
    by_cases hk : d.owner = k
    · simp [hk, Function.comp_def]
    · simp [hk]
  · simp [Declaration.property]

/-- Declarations of distinct names are all accepted, one after the other. -/
theorem foldlM_declare_holding {classes : List Class} {ds es : List Declaration}
    (distinct : ((ds ++ es).map (·.key)).Nodup) :
    es.foldlM declare (holding classes ds) = .ok (holding classes (ds ++ es)) := by
  induction es generalizing ds with
  | nil =>
    rw [List.append_nil]
    rfl
  | cons e es ih =>
    have fresh : e.key ∉ ds.map (·.key) := by
      rw [List.map_append, List.nodup_append] at distinct
      intro he
      exact distinct.2.2 _ he _ (by simp) rfl
    rw [List.append_cons] at distinct ⊢
    rw [List.foldlM_cons, declare_holding fresh]
    exact ih distinct

/-! ## Finding what is declared -/

/-- A property is found on its class under its name. -/
theorem own?_holding (classes : List Class) {ds : List Declaration} {i : Nat} {d : Declaration}
    (distinct : (ds.map (·.key)).Nodup) (hc : d.owner < classes.length) (hi : ds[i]? = some d) :
    (holding classes ds).own? d.owner d.term.name = some i := by
  rw [own?, declared_holding hc]
  have self : ((holding classes ds).property? i).any (·.name == d.term.name) := by
    simp [property?_holding, hi]
  cases hf : (places ds d.owner).find? fun p =>
      ((holding classes ds).property? p).any (·.name == d.term.name) with
  | none =>
    rw [List.find?_eq_none] at hf
    exact absurd self (hf i (mem_places.2 ⟨d, hi, rfl⟩))
  | some j =>
    obtain ⟨e, he, ho⟩ := mem_places.1 (List.mem_of_find?_eq_some hf)
    have hn : e.term.name = d.term.name := by
      have := List.find?_some hf
      simpa [property?_holding, he] using this
    -- both places have one key
    have keys : (ds.map (·.key))[j]? = (ds.map (·.key))[i]? := by
      rw [List.getElem?_map, List.getElem?_map, he, hi]
      exact congrArg some (Prod.ext ho hn)
    have hj : j < (ds.map (·.key)).length := by
      simpa using (List.getElem?_eq_some_iff.1 he).1
    exact congrArg some ((List.getElem?_inj hj distinct).1 keys)

/-- What a class has itself hides what it inherits. -/
theorem lookup?_of_own? {s : Schema} {c : ClassId} {name : String} {p : PropertyId}
    (h : s.own? c name = some p) : s.lookup? c name = some p := by
  simp [lookup?, search, h]

/-! ## Operations -/

def operations (s : Schema) (c : ClassId) : List String :=
  ((s.class? c).map (·.operations)).getD []

/-- The schema with more operations, each on the class with a number. -/
def operating (s : Schema) (os : List (ClassId × String)) : Schema where
  classes := s.classes.mapIdx fun k c =>
    { c with operations := c.operations ++ (os.filter (·.1 == k)).map (·.2) }
  properties := s.properties

theorem addOperation_operating (s : Schema) (os : List (ClassId × String)) (c : ClassId)
    (name : String) : (s.operating os).addOperation c name = s.operating (os ++ [(c, name)]) := by
  simp only [addOperation, operating, Schema.mk.injEq, and_true]
  apply List.ext_getElem?
  intro k
  simp only [List.getElem?_modify, List.getElem?_mapIdx]
  by_cases hk : c = k
  · simp [hk, Function.comp_def]
  · simp [hk]

theorem mapIdx_eq_self {α : Type} {l : List α} {f : Nat → α → α} (h : ∀ i a, f i a = a) :
    l.mapIdx f = l := by
  apply List.ext_getElem?
  intro i
  rw [List.getElem?_mapIdx]
  cases l[i]? with
  | none => rfl
  | some a => exact congrArg some (h i a)

theorem operating_nil (s : Schema) : s.operating [] = s := by
  rw [operating, mapIdx_eq_self]
  intro k c
  simp

theorem names_operating (s : Schema) (os : List (ClassId × String)) :
    (s.operating os).classes.map (·.name) = s.classes.map (·.name) := by
  apply List.ext_getElem?
  intro i
  simp [operating, Function.comp_def]

theorem declared_operating (s : Schema) (os : List (ClassId × String)) (c : ClassId) :
    (s.operating os).declared c = s.declared c := by
  simp [declared, class?, operating, Function.comp_def]

theorem operations_operating {s : Schema} {c : ClassId} (hc : c < s.classes.length)
    (os : List (ClassId × String)) :
    (s.operating os).operations c = s.operations c ++ (os.filter (·.1 == c)).map (·.2) := by
  simp [operations, class?, operating, hc]

/-! ## Members of derived unions -/

/-- The schema after members have been added to derived unions. -/
def linked (s : Schema) (links : List (PropertyId × List PropertyId)) : Schema where
  classes := s.classes
  properties := s.properties.mapIdx fun i p =>
    { p with subsets := p.subsets ++ (links.filter (·.1 == i)).flatMap (·.2) }

theorem linked_nil (s : Schema) : s.linked [] = s := by
  rw [linked, mapIdx_eq_self]
  intro i p
  simp

theorem property?_linked (s : Schema) (links : List (PropertyId × List PropertyId)) (i : Nat) :
    (s.linked links).property? i = (s.property? i).map fun p =>
      { p with subsets := p.subsets ++ (links.filter (·.1 == i)).flatMap (·.2) } := by
  simp [property?, linked]

/-- Members are added to what is a derived union. -/
theorem subset_linked {s : Schema} {links : List (PropertyId × List PropertyId)}
    {u : PropertyId} {p : Property} (hu : s.property? u = some p) (hp : p.kind = .derivedUnion)
    (members : List PropertyId) :
    (s.linked links).subset (some u) (members.map some) =
      .ok (s.linked (links ++ [(u, members)])) := by
  have found := property?_linked s links u
  rw [hu, Option.map_some] at found
  simp only [subset, found]
  refine (if_neg (not_not.2 hp)).trans (congrArg Except.ok ?_)
  simp only [linked, Schema.mk.injEq, true_and]
  apply List.ext_getElem?
  intro k
  simp only [List.getElem?_modify, List.getElem?_mapIdx]
  by_cases hk : u = k
  · simp [hk, Function.comp_def]
  · simp [hk]

theorem own?_linked (s : Schema) (links : List (PropertyId × List PropertyId)) (c : ClassId)
    (name : String) : (s.linked links).own? c name = s.own? c name := by
  simp only [own?, property?_linked, Option.any_map]
  rfl

theorem search_linked (s : Schema) (links : List (PropertyId × List PropertyId)) (name : String)
    (fuel : Nat) (c : ClassId) (r : Search) :
    (s.linked links).search name fuel c r = s.search name fuel c r := by
  induction fuel generalizing c r with
  | zero => rfl
  | succ fuel ih =>
    have inner : (fun (r : Search) g =>
        if r.found.isSome then r else (s.linked links).search name fuel g r) =
        fun r g => if r.found.isSome then r else s.search name fuel g r := by
      funext r g
      rw [ih]
    rw [search, search, own?_linked, inner]
    rfl

/-- Members change nothing about where properties are found. -/
theorem lookup?_linked (s : Schema) (links : List (PropertyId × List PropertyId)) (c : ClassId)
    (name : String) : (s.linked links).lookup? c name = s.lookup? c name := by
  rw [lookup?, search_linked]
  rfl

end ModelCompiler.Schema
