import Mathlib.Data.List.Forall2
import ModelCompiler.Proofs.Plan.Acceptance

/-!
# What classes own

The attributes of a plan come from three passes: those that its classes own are listed first, then
those that stand for associations, and those that are declared derived are held back until the end.
Main statement: each owned property that is no association end is described by one attribute of its
class, plain or derived as the policy has it, in the order of the classes and of what they own, and
the operations of a plan are the owned ones.  What an attribute is like is stated of the element of
its property, by the rules that say which of several sources of a type or of a default counts.
-/

namespace ModelCompiler

/-! ## What a class owns -/

namespace Graph

/-- The properties that a class owns and that are no association ends, as often and in the order in
which it names them. -/
def attributeElements (g : Graph) (c : Class) : List Element :=
  (c.ownedAttributes.filterMap g.get?).filter fun e =>
    e.type = "Property" ∧ e.firstRef "association" = ""

/-- The operations that a class owns, as often and in the order in which it names them. -/
def operationElements (g : Graph) (c : Class) : List Element :=
  (c.ownedOperations.filterMap g.get?).filter (·.type = "Operation")

end Graph

/-- The operation that an element is. -/
def Operation.ofElement (e : Element) : Operation where
  id := e.id
  name := e.name

theorem Entity.operation?_ofElement? (cv : Conventions) (g : Graph) (e : Element) :
    (Entity.ofElement? cv g e).bind Entity.operation? =
      if e.type = "Operation" then some (Operation.ofElement e) else none := by
  refine pick_ofElement? (fun x a h => ?_) (fun e h => ?_) e
  · cases x <;> cases h
    rfl
  · simp [ofElement?, h, operation?, Operation.ofElement]

/-- What is found under identifiers in a kind is what the elements with these identifiers are. -/
theorem Model.filterMap_find?_view {cv : Conventions} {g : Graph} {α : Type}
    {pick : Entity → Option α} {key : α → String} {p : Element → Prop} [DecidablePred p]
    {f : Element → α} (hk : ∀ x a, pick x = some a → key a = x.id)
    (h : ∀ e, (Entity.ofElement? cv g e).bind pick = if p e then some (f e) else none)
    (ids : List String) :
    ids.filterMap (fun id =>
      ((g.elements.filterMap (Entity.ofElement? cv g)).filterMap pick).find? (key · == id)) =
        ((ids.filterMap g.get?).filter (p ·)).map f := by
  rw [List.filter_filterMap, List.map_filterMap]
  refine List.filterMap_congr fun id _ => ?_
  ext a
  rw [find?_view_eq_some hk h]
  simp [Option.filter_eq_some_iff, and_assoc]

/-! ## The rules for types and defaults -/

/-- The enumeration that types a property: the one that it refers to or, when it refers to none, the
first one that has the name of its type. -/
inductive Typing (enumerations : List Enumeration) (e : Element) : Enumeration → Prop
  | byReference {x : Enumeration} (known : x ∈ enumerations) (refers : x.id = e.firstRef "type") :
    Typing enumerations e x
  | byName {x : Enumeration} {before after : List Enumeration}
    (unknown : ∀ y ∈ enumerations, y.id ≠ e.firstRef "type")
    (named : x.name = e.text "typeValue") (given : e.text "typeValue" ≠ "")
    (order : enumerations = before ++ x :: after)
    (first : ∀ y ∈ before, y.name ≠ e.text "typeValue") :
    Typing enumerations e x

/-- What a policy gives by hand, which is nothing if it does not know the property. -/
def Policy.byHand (policy : Policy) (qualified : String) : AttributeOverride :=
  (policy.attribute? qualified).getD {}

/-- The type of an attribute, and its enumeration: a type by hand counts before an enumeration, and
an enumeration before the scalar type for the type of the property. -/
inductive TypeRule (enumerations : List Enumeration) (o : AttributeOverride) (e : Element) :
    String → Option String → Prop
  | byHand (given : o.type ≠ "") : TypeRule enumerations o e o.type none
  | enumeration {x : Enumeration} (absent : o.type = "") (typing : Typing enumerations e x) :
    TypeRule enumerations o e x.name (some x.name)
  | scalar (absent : o.type = "") (untyped : ∀ x, ¬Typing enumerations e x) :
    TypeRule enumerations o e (scalarType (e.text "typeValue")) none

/-- The default of an attribute: one by hand counts before that of the property, and an empty one of
the property is none. -/
inductive DefaultRule (o : AttributeOverride) (e : Element) : Option String → Prop
  | byHand {d : String} (given : o.default? = some d) : DefaultRule o e (some d)
  | ofProperty (absent : o.default? = none) (given : e.text "defaultValue" ≠ "") :
    DefaultRule o e (some (e.text "defaultValue"))
  | nothing (absent : o.default? = none) (empty : e.text "defaultValue" = "") :
    DefaultRule o e none

/-- An attribute is what becomes of a property that a class owns. -/
structure Describes (enumerations : List Enumeration) (policy : Policy) (c : Class) (e : Element)
    (a : Attribute) : Prop where
  property : a.property = e.id
  className : a.className = c.name
  name : a.name = e.name
  upper_ne : a.bounds.upper ≠ ""
  lower_ne : a.bounds.lower ≠ "" ∧ a.bounds.lower ≠ "*"
  upper : e.text "upperValue" ≠ "" → a.bounds.upper = e.text "upperValue"
  lower : e.text "lowerValue" ≠ "" → e.text "lowerValue" ≠ "*" →
    a.bounds.lower = e.text "lowerValue"
  type : TypeRule enumerations (policy.byHand a.qualified) e a.type a.enumeration
  default : DefaultRule (policy.byHand a.qualified) e a.default?

/-! ## One attribute -/

/-- The bounds of an attribute are never missing, and the lower one is never unlimited. -/
theorem Multiplicity.ofAttribute_ne (lower upper : String) :
    (ofAttribute lower upper).upper ≠ "" ∧ (ofAttribute lower upper).lower ≠ "" ∧
      (ofAttribute lower upper).lower ≠ "*" := by
  refine ⟨?_, ?_⟩
  · show (if upper = "" then "1" else upper) ≠ ""
    split
    · decide
    · assumption
  · show (if lower = "" ∨ lower = "*" then "0" else lower) ≠ "" ∧
      (if lower = "" ∨ lower = "*" then "0" else lower) ≠ "*"
    split
    · decide
    · rename_i given
      exact not_or.1 given

namespace Model

variable {m : Model} {g : Graph} {e : Element}

theorem enumerationOf?_eq_some_iff (distinct : (m.enumerations.map (·.id)).Nodup)
    {x : Enumeration} :
    m.enumerationOf? (.ofElement g e) = some x ↔ Typing m.enumerations e x := by
  have referred (y : Enumeration) : m.enumeration? (e.firstRef "type") = some y ↔
      y ∈ m.enumerations ∧ y.id = e.firstRef "type" := find?_key_eq_some distinct
  have reference : (Property.ofElement g e).typeId = e.firstRef "type" := rfl
  cases found : m.enumeration? (e.firstRef "type") with
  | some y =>
    obtain ⟨isKnown, refers⟩ := (referred y).1 found
    have typed : m.enumerationOf? (.ofElement g e) = some y := by
      rw [enumerationOf?, reference, found]
    rw [typed]
    constructor
    · rintro ⟨⟩
      exact .byReference isKnown refers
    · rintro (⟨known, refers'⟩ | ⟨unknown, -, -, -, -⟩)
      · rw [← found]
        exact (referred x).2 ⟨known, refers'⟩
      · exact absurd refers (unknown y isKnown)
  | none =>
    have unknown : ∀ y ∈ m.enumerations, y.id ≠ e.firstRef "type" := by
      intro y hy same
      have isKnown := (referred y).2 ⟨hy, same⟩
      rw [found] at isKnown
      cases isKnown
    have typed : m.enumerationOf? (.ofElement g e) =
        if e.text "typeValue" = "" then none
        else m.enumerations.find? (·.name == e.text "typeValue") := by
      rw [enumerationOf?, reference, found]
      rfl
    rw [typed]
    constructor
    · intro h
      split at h
      · cases h
      · rename_i given
        obtain ⟨named, before, after, order, first⟩ := List.find?_eq_some_iff_append.1 h
        refine .byName unknown (by simpa using named) given order fun y hy => ?_
        simpa using first y hy
    · rintro (⟨known, refers⟩ | ⟨-, named, given, order, first⟩)
      · exact absurd refers (unknown x known)
      · rw [if_neg given]
        refine List.find?_eq_some_iff_append.2 ⟨by simpa using named, _, _, order, fun y hy => ?_⟩
        simpa using first y hy

end Model

namespace Attribute

theorem override_eq (a : Attribute) (o : AttributeOverride) :
    a.override o =
      { a with
        type := if o.type = "" then a.type else o.type
        enumeration := if o.type = "" then a.enumeration else none
        default? := o.default?.or a.default? } := by
  unfold override
  by_cases typed : o.type = ""
  · cases o.default? with
    | none => simp [typed]
    | some d => simp [typed]
  · cases o.default? with
    | none => simp [typed]
    | some d => simp [typed]

/-- An attribute under a policy has the type and the default that are given by hand, and it is
derived if it is declared so. -/
theorem under_eq (a : Attribute) {policy : Policy} {o : AttributeOverride}
    (ho : policy.byHand a.qualified = o) :
    a.under policy =
      { a with
        type := if o.type = "" then a.type else o.type
        enumeration := if o.type = "" then a.enumeration else none
        default? := o.default?.or a.default?
        source := if policy.derives a.qualified then .derived else a.source } := by
  unfold Policy.byHand at ho
  unfold under
  cases known : policy.attribute? a.qualified with
  | none =>
    rw [known] at ho
    subst ho
    cases policy.derives a.qualified with
    | true => rfl
    | false => rfl
  | some given =>
    rw [known] at ho
    subst ho
    simp only [override_eq]
    cases policy.derives a.qualified with
    | true => rfl
    | false => rfl

end Attribute

section Owned

variable {m : Model} {g : Graph} {policy : Policy}

/-- The type of a property and its enumeration, unless the type is given by hand, follow the rule
for types. -/
theorem Model.typeRule_of_enumerationOf? (distinct : (m.enumerations.map (·.id)).Nodup)
    {e : Element} {o : AttributeOverride} {typed : Option String}
    (h : (m.enumerationOf? (.ofElement g e)).map (·.name) = typed) :
    TypeRule m.enumerations o e
      (if o.type = "" then typed.getD (scalarType (e.text "typeValue")) else o.type)
      (if o.type = "" then typed else none) := by
  have typing (x : Enumeration) : m.enumerationOf? (.ofElement g e) = some x ↔
      Typing m.enumerations e x := m.enumerationOf?_eq_some_iff distinct
  by_cases absent : o.type = ""
  · rw [if_pos absent, if_pos absent]
    cases found : m.enumerationOf? (.ofElement g e) with
    | some x =>
      rw [← h, found, Option.map_some, Option.getD_some]
      exact .enumeration absent ((typing x).1 found)
    | none =>
      rw [← h, found, Option.map_none, Option.getD_none]
      refine .scalar absent fun x hx => ?_
      have isTyped := (typing x).2 hx
      rw [found] at isTyped
      cases isTyped
  · rw [if_neg absent, if_neg absent]
    exact .byHand absent

/-- The default of a property, unless it is given by hand, follows the rule for defaults. -/
theorem defaultRule_or (o : AttributeOverride) (e : Element) :
    DefaultRule o e
      (o.default?.or
        (if e.text "defaultValue" = "" then none else some (e.text "defaultValue"))) := by
  cases given : o.default? with
  | some d => exact .byHand given
  | none =>
    rw [Option.none_or]
    split
    · rename_i empty
      exact .nothing given empty
    · rename_i full
      exact .ofProperty given full

/-- An owned attribute describes its property under every policy. -/
theorem Model.describes_under (distinct : (m.enumerations.map (·.id)).Nodup) (c : Class)
    (e : Element) :
    Describes m.enumerations policy c e ((m.ownAttribute c (.ofElement g e)).under policy) := by
  obtain ⟨upper_ne, lower_ne⟩ :=
    Multiplicity.ofAttribute_ne (e.text "lowerValue") (e.text "upperValue")
  rw [Attribute.under_eq _ rfl]
  exact {
    property := rfl
    className := rfl
    name := rfl
    upper_ne := upper_ne
    lower_ne := lower_ne
    upper := fun given => if_neg given
    lower := fun given bounded => if_neg (not_or.2 ⟨given, bounded⟩)
    type := m.typeRule_of_enumerationOf? distinct rfl
    default := defaultRule_or _ e }

end Owned

/-! ## All attributes and operations -/

namespace Graph

variable {g : Graph} {policy : Policy} {cv : Conventions}

/-- The properties that classes own and that are no association ends, each with its class. -/
def ownedAttributes (g : Graph) (cs : List Class) : List (Class × Element) :=
  cs.flatMap fun c => (g.attributeElements c).map (c, ·)

/-- The attribute for a property that a class owns. -/
def attributeFor (g : Graph) (policy : Policy) (cv : Conventions) (x : Class × Element) :
    Attribute :=
  ((g.settled cv).listLiterals.ownAttribute x.1 (.ofElement g x.2)).under policy

/-- The identifiers of enumerations are distinct, also when their literals are listed. -/
theorem ids_enumerations_nodup (g : Graph) (cv : Conventions) :
    ((g.settled cv).listLiterals.enumerations.map (·.id)).Nodup := by
  have ids : (g.settled cv).listLiterals.enumerations.map (·.id) =
      (Model.ofGraph cv g).enumerations.map (·.id) := List.map_map
  rw [ids]
  refine Model.ids_view_nodup (fun x e h => ?_) cv g
  cases x <;> cases h
  rfl

theorem describes_attributeFor (x : Class × Element) :
    Describes (g.settled cv).listLiterals.enumerations policy x.1 x.2
      (g.attributeFor policy cv x) :=
  Model.describes_under (g.ids_enumerations_nodup cv) x.1 x.2

/-- An owned attribute is derived if it is declared so, and plain otherwise. -/
theorem source_attributeFor (x : Class × Element) :
    (g.attributeFor policy cv x).source =
      if policy.derives (x.1.name ++ "." ++ x.2.name) then .derived else .plain := by
  rw [attributeFor, Attribute.under_eq _ rfl]
  rfl

/-- The attributes of classes stand for the properties that these own. -/
theorem flatMap_attributesOf (cs : List Class) :
    cs.flatMap ((g.settled cv).listLiterals.attributesOf policy) =
      (g.ownedAttributes cs).map (g.attributeFor policy cv) := by
  have properties (ids : List String) : ids.filterMap (g.settled cv).listLiterals.property? =
      ((ids.filterMap g.get?).filter (·.type = "Property")).map (Property.ofElement g) :=
    Model.filterMap_find?_view (fun _ _ => Entity.id_of_property?)
      (Entity.property?_ofElement? cv g) ids
  rw [ownedAttributes, List.map_flatMap]
  refine List.flatMap_congr fun c _ => ?_
  rw [Model.attributesOf, properties, List.filter_map, List.filter_filter, attributeElements,
    List.map_map, List.map_map]
  refine congrArg _ (List.filter_congr fun e _ => ?_)
  rw [Bool.eq_iff_iff]
  simp [Property.ofElement, and_comm]

/-- The owned attributes that come from one source, with the properties for which they stand. -/
theorem filter_attributeFor {owned : List (Class × Element)} {s : AttributeSource}
    {p : Class × Element → Bool} (h : ∀ x, (g.attributeFor policy cv x).source = s ↔ p x = true) :
    (owned.map (g.attributeFor policy cv)).filter (·.source == s) =
      (owned.filter p).map (g.attributeFor policy cv) := by
  rw [List.filter_map]
  refine congrArg _ (List.filter_congr fun x _ => ?_)
  rw [Bool.eq_iff_iff, ← h x]
  exact beq_iff_eq

/-- Properties in order are described by their attributes. -/
theorem forall₂_describes (owned : List (Class × Element)) :
    List.Forall₂ (fun x => Describes (g.settled cv).listLiterals.enumerations policy x.1 x.2) owned
      (owned.map (g.attributeFor policy cv)) := by
  rw [List.forall₂_map_right_iff, List.forall₂_same]
  exact fun x _ => describes_attributeFor x

end Graph

section Resolved

variable {g : Graph} {policy : Policy} {cv : Conventions}

/-- The attributes of a plan: the plain ones, those for associations and the derived ones. -/
theorem attributes_resolve (h : (resolve g policy cv).fault? = none) :
    let p := (resolve g policy cv).plan
    let owned := g.ownedAttributes p.classes
    let derives (x : Class × Element) := policy.derives (x.1.name ++ "." ++ x.2.name)
    ∃ plain simple derived : List Attribute, p.attributes = plain ++ simple ++ derived ∧
      plain = (owned.filter (!derives ·)).map (g.attributeFor policy cv) ∧
      derived = (owned.filter (derives ·)).map (g.attributeFor policy cv) ∧
      (∀ a ∈ plain, a.source = .plain) ∧ (∀ a ∈ simple, a.source = .simple) ∧
      ∀ a ∈ derived, a.source = .derived := by
  intro p owned derives
  obtain ⟨told, journal, q, hq, hp⟩ := resolve_gains h
  have model : q.model = (g.settled cv).listLiterals := hq.model
  have classes : p.classes = q.classes := by
    rw [show p = _ from hp]
    rfl
  have attributes : p.attributes = q.attributes ++
      (q.classes.flatMap (q.model.attributesOf policy)).filter (·.source == .derived) := by
    rw [show p = _ from hp]
    rfl
  have begun : (Plan.begin (g.settled cv) cv policy told).attributes =
      (q.classes.flatMap (q.model.attributesOf policy)).filter (·.source == .plain) := by
    rw [hq.classes, model]
    rfl
  have isDerived (x : Class × Element) : (g.attributeFor policy cv x).source = .derived ↔
      derives x = true := by
    rw [Graph.source_attributeFor]
    simp [derives]
  have isPlain (x : Class × Element) : (g.attributeFor policy cv x).source = .plain ↔
      (!derives x) = true := by
    rw [Graph.source_attributeFor]
    simp [derives]
  refine ⟨_, ((q.model.allSeats cv.simpleAttribute policy).filter (·.isAttribute)).map fun s =>
    Plan.simpleAttribute s.head s.tail, _, ?_, rfl, rfl, ?_, ?_, ?_⟩
  · rw [attributes, hq.attributes, begun, model, Graph.flatMap_attributesOf, ← classes,
      Graph.filter_attributeFor isPlain, Graph.filter_attributeFor isDerived]
  · intro a ha
    obtain ⟨x, hx, rfl⟩ := List.mem_map.1 ha
    exact (isPlain x).2 (List.mem_filter.1 hx).2
  · intro a ha
    obtain ⟨s, -, rfl⟩ := List.mem_map.1 ha
    rfl
  · intro a ha
    obtain ⟨x, hx, rfl⟩ := List.mem_map.1 ha
    exact (isDerived x).2 (List.mem_filter.1 hx).2

/-- The operations of a plan are those that its classes own. -/
theorem operations_resolve (h : (resolve g policy cv).fault? = none) :
    let p := (resolve g policy cv).plan
    p.operations = p.classes.flatMap fun c => (g.operationElements c).map fun e =>
      { id := e.id, className := c.name, name := e.name } := by
  intro p
  obtain ⟨told, journal, q, hq, hp⟩ := resolve_gains h
  have model : q.model = (g.settled cv).listLiterals := hq.model
  have operations (ids : List String) :
      ids.filterMap (g.settled cv).listLiterals.operation? =
        ((ids.filterMap g.get?).filter (·.type = "Operation")).map Operation.ofElement :=
    Model.filterMap_find?_view (fun _ _ => Entity.id_of_operation?)
      (Entity.operation?_ofElement? cv g) ids
  have listed : p.operations = q.classOperations := by
    rw [show p = _ from hp]
    rfl
  have classes : p.classes = q.classes := by
    rw [show p = _ from hp]
    rfl
  rw [listed, classes, Plan.classOperations, model]
  refine List.flatMap_congr fun c _ => ?_
  rw [operations, List.map_map]
  rfl

end Resolved

/-- Every owned property of a plan's classes that is no association end is described by one
attribute of the plan, plain or derived as the policy has it, in the order of the classes and of
what they own. The attributes of a plan are the plain ones, then those for associations and then the
derived ones, and its operations are the owned ones, in order. -/
theorem owned_features_in_order (g : Graph) (policy : Policy) (cv : Conventions)
    (h : (resolve g policy cv).fault? = none) :
    let p := (resolve g policy cv).plan
    let owned := p.classes.flatMap fun c => (g.attributeElements c).map (c, ·)
    let derives (x : Class × Element) := policy.derives (x.1.name ++ "." ++ x.2.name)
    p.attributes = p.attributes.filter (·.source = .plain) ++
      p.attributes.filter (·.source = .simple) ++ p.attributes.filter (·.source = .derived) ∧
    List.Forall₂ (fun x => Describes p.enumerations policy x.1 x.2) (owned.filter (!derives ·))
      (p.attributes.filter (·.source = .plain)) ∧
    List.Forall₂ (fun x => Describes p.enumerations policy x.1 x.2) (owned.filter (derives ·))
      (p.attributes.filter (·.source = .derived)) ∧
    p.operations = p.classes.flatMap fun c => (g.operationElements c).map fun e =>
      { id := e.id, className := c.name, name := e.name } := by
  intro p owned derives
  obtain ⟨plain, simple, derived, all, isPlain, isDerived, plains, simples, deriveds⟩ :=
    attributes_resolve h
  have enumerations : p.enumerations = _ := enumerations_resolve h
  have kept (s : AttributeSource) : p.attributes.filter (·.source = s) =
      (if .plain = s then plain else []) ++ (if .simple = s then simple else []) ++
        if .derived = s then derived else [] := by
    rw [show p.attributes = _ from all, List.filter_append, List.filter_append,
      Plan.filter_source_eq plains, Plan.filter_source_eq simples, Plan.filter_source_eq deriveds]
  have keptPlain : p.attributes.filter (·.source = .plain) = plain := by simp [kept]
  have keptSimple : p.attributes.filter (·.source = .simple) = simple := by simp [kept]
  have keptDerived : p.attributes.filter (·.source = .derived) = derived := by simp [kept]
  rw [keptPlain, keptSimple, keptDerived, enumerations, isPlain, isDerived]
  refine ⟨?_, Graph.forall₂_describes _, Graph.forall₂_describes _, operations_resolve h⟩
  rw [← isPlain, ← isDerived]
  exact all

/-- A pump with a state, a flow, a level, which is an end of an association, and a medium; it owns
its state twice. -/
def waterworks : Graph where
  elements :=
    [⟨"pump", "Class", [("name", .scalar "Pump"),
       ("ownedAttribute", .refList ["state", "flow", "level", "state", "medium"]),
       ("ownedOperation", .refList ["start", "flow", "stop"])]⟩,
     ⟨"states", "Class", [("name", .scalar "PumpKind")]⟩,
     ⟨"state", "Property", [("name", .scalar "state"), ("type", .ref "states")]⟩,
     ⟨"flow", "Property",
       [("name", .scalar "flow"), ("typeValue", .scalar "Real"), ("lowerValue", .scalar "*"),
        ("defaultValue", .scalar "1.5")]⟩,
     ⟨"level", "Property", [("name", .scalar "level"), ("association", .ref "levels")]⟩,
     ⟨"medium", "Property", [("name", .scalar "medium"), ("typeValue", .scalar "PumpKind")]⟩,
     ⟨"start", "Operation", [("name", .scalar "start")]⟩,
     ⟨"stop", "Operation", [("name", .scalar "stop")]⟩]
  ids_nodup := by decide
  ids_ne := by decide

/-- The state of a pump is declared derived, and its medium is a text by hand. -/
def byWater : Policy :=
  .ofOverrides { derived := ["Pump.state"], attributes := [("Pump.medium", { type := "string" })] }

theorem owned_features_in_order_waterworks :
    let p := (resolve waterworks byWater {}).plan
    (p.attributes.filter (·.source = .plain)).length = 2 ∧
    (p.attributes.filter (·.source = .derived)).length = 2 ∧
    p.attributes.map (fun a => (a.name, a.type, a.enumeration, a.default?)) =
      [("flow", "float64", none, some "1.5"), ("medium", "string", none, none),
       ("state", "PumpKind", some "PumpKind", none),
       ("state", "PumpKind", some "PumpKind", none)] ∧
    p.operations = [⟨"start", "Pump", "start"⟩, ⟨"stop", "Pump", "stop"⟩] := by
  intro p
  have h : (resolve waterworks byWater {}).fault? = none := by decide +kernel
  obtain ⟨-, plain, derived, operations⟩ := owned_features_in_order waterworks byWater {} h
  refine ⟨?_, ?_, by decide +kernel, ?_⟩
  · rw [← plain.length_eq]
    decide +kernel
  · rw [← derived.length_eq]
    decide +kernel
  · exact operations.trans (by decide +kernel)

end ModelCompiler
