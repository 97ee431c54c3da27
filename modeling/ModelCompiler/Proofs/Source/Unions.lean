import ModelCompiler.Proofs.Plan.Members
import ModelCompiler.Proofs.Source.Declared
import ModelCompiler.Proofs.Source.Recording

/-!
# Which properties derived unions are given as members

Whether a union and its members are declared is decided by their qualified names, and any descriptor
may have declared these.  So a statement about a union can be written although the union itself was
left out, and then it finds another property or none.  Main statement: statements find the
properties that were declared for the very ends they are about if and only if no union with a
statement, and no member in one, was left out for another property of its qualified name.
-/

namespace ModelCompiler

open Schema (ClassId PropertyId)

namespace Plan

/-- The place, among all descriptors, of the one that is recorded for the end with a number. An end
that cannot be navigated to has none, and neither has an end whose association has a scalar value,
unless it has become an attribute. -/
def place? (p : Plan) (i : Nat) : Option Nat :=
  match p.ends[i]? with
  | none => none
  | some e => match e.role with
    | .plain => some (p.attributes.length + p.rank .plain i)
    | .redefinition => some (p.attributes.length + p.associations.length + p.rank .redefinition i)
    | .derivedUnion =>
      some (p.attributes.length + p.associations.length + p.redefinitions.length +
        p.rank .derivedUnion i)
    | .nonNavigable | .simpleAttribute => none

/-- The place of the descriptor for the derived union with a number. -/
def unionPlace (p : Plan) (j : Nat) : Nat :=
  p.attributes.length + p.associations.length + p.redefinitions.length + j

end Plan

namespace Source

namespace Recording

/-- The property that is made for the descriptor in a place. -/
def made? (r : Recording) (place : Nat) : Option PropertyId :=
  r.rendered.findIdx? (·.2 == place)

/-- The descriptor in a place is declared itself, and not another one in its stead. -/
def IsRendered (r : Recording) (place : Nat) : Prop := place ∈ r.rendered.map (·.2)

theorem places_rendered_nodup (r : Recording) : (r.rendered.map (·.2)).Nodup := by
  have all : (r.descriptors.zipIdx.map (·.2)).Nodup := by
    rw [List.zipIdx_map_snd]
    exact List.nodup_range'
  exact all.sublist (List.filter_sublist.map _)

theorem made?_eq_some {r : Recording} {n : Nat} {d : Descriptor} {k : Nat}
    (h : r.rendered[n]? = some (d, k)) : r.made? k = some n := by
  have place : (r.rendered.map (·.2))[n]? = some k := by
    rw [List.getElem?_map, h]
    rfl
  have found := findIdx?_eq_some_of_nodup r.places_rendered_nodup place
  rwa [List.findIdx?_map] at found

theorem isRendered_of_made? {r : Recording} {k : Nat} {n : PropertyId} (h : r.made? k = some n) :
    r.IsRendered k := by
  obtain ⟨hn, hk, -⟩ := List.findIdx?_eq_some_iff_getElem.1 h
  exact List.mem_map.2 ⟨r.rendered[n], List.getElem_mem hn, eq_of_beq hk⟩

theorem exists_of_isRendered {r : Recording} {k : Nat} (h : r.IsRendered k) {d : Descriptor}
    (hd : r.descriptors[k]? = some d) : ∃ n : Nat, r.rendered[n]? = some (d, k) := by
  obtain ⟨⟨e, j⟩, he, rfl⟩ := List.mem_map.1 h
  have same : r.descriptors[j]? = some e := (mem_firsts.1 he).1
  rw [hd] at same
  cases same
  exact List.mem_iff_getElem?.1 he

end Recording

/-- A lookup finds the property that was made for the descriptor in a place. -/
def File.Reaches (f : File) (r : Recording) (s : Schema) (l : PropertyLookup)
    (place : Option Nat) : Prop :=
  ∃ k n, place = some k ∧ r.made? k = some n ∧ f.find s l = .ok (some n)

/-- The statement about a derived union finds the property that was made for that very union, which
is a derived union, and for each member the property that was made for that very end. -/
def File.LinksOwn (f : File) (p : Plan) (r : Recording) (s : Schema) : Prop :=
  ∀ (j : Nat) (u : DerivedUnion), p.derivedUnions[j]? = some u →
    ∀ x ∈ subsetsOf f.scope r.names u,
      (∃ n q, r.made? (p.unionPlace j) = some n ∧ f.find s x.union = .ok (some n) ∧
        s.property? n = some q ∧ q.kind = .derivedUnion) ∧
      List.Forall₂ (fun l m => f.Reaches r s l (p.place? m.2)) x.members
        ((p.membersOf u.toEnd.name).filter (·.1.qualified ∈ r.names))

end Source

/-- Every derived union that has a statement is declared itself, and so is every end that the
statement names as a member. -/
def Plan.KeepsNames (p : Plan) (r : Source.Recording) : Prop :=
  ∀ (j : Nat) (u : DerivedUnion), p.derivedUnions[j]? = some u → u.toEnd.qualified ∈ r.names →
    (∃ m ∈ p.membersOf u.toEnd.name, m.1.qualified ∈ r.names) →
      r.IsRendered (p.unionPlace j) ∧
      ∀ m ∈ p.membersOf u.toEnd.name, m.1.qualified ∈ r.names →
        ∃ k, p.place? m.2 = some k ∧ r.IsRendered k

/-! ## Places -/

theorem getElem?_append_length {α : Type} (as : List α) {bs : List α} {n : Nat} {b : α}
    (h : bs[n]? = some b) (cs : List α) : (as ++ bs ++ cs)[as.length + n]? = some b := by
  have hn : n < bs.length := (List.getElem?_eq_some_iff.1 h).1
  rw [List.append_assoc, List.getElem?_append_right (Nat.le_add_right _ _), Nat.add_sub_cancel_left,
    List.getElem?_append_left hn, h]

namespace Plan

variable {p : Plan}

/-- The recorded descriptors of a plan, by kind. -/
theorem descriptors_calls (p : Plan) : (Source.Recording.ofCalls p.calls).descriptors =
    p.attributes.map .attribute ++ p.associations.map (fun a => .association a.1 (some a.2)) ++
      p.redefinitions.map .redefinition ++ p.derivedUnions.map .derivedUnion := by
  rw [Source.Recording.ofCalls_calls, Source.Recording.descriptors, List.map_map]
  rfl

theorem getElem?_unionPlace {j : Nat} {u : DerivedUnion} (h : p.derivedUnions[j]? = some u) :
    (Source.Recording.ofCalls p.calls).descriptors[p.unionPlace j]? = some (.derivedUnion u) := by
  have hj : (p.derivedUnions.map Source.Descriptor.derivedUnion)[j]? = some (.derivedUnion u) := by
    rw [List.getElem?_map, h]
    rfl
  have found := getElem?_append_length (p.attributes.map .attribute ++
    p.associations.map (fun a => .association a.1 (some a.2)) ++
    p.redefinitions.map .redefinition) hj []
  rw [List.append_nil, ← descriptors_calls] at found
  simpa [unionPlace, Nat.add_assoc] using found

/-- In the place for an end stands a descriptor of that end. -/
theorem exists_getElem?_place (hp : p.Sorted) {i k : Nat} {e : End} (he : p.ends[i]? = some e)
    (hk : p.place? i = some k) :
    ∃ d, (Source.Recording.ofCalls p.calls).descriptors[k]? = some d ∧ d.end? = some e := by
  have listed := getElem?_filter_rank he
  rw [place?, he] at hk
  dsimp only at hk
  split at hk
  · rename_i hr
    cases hk
    rw [hr, ← hp.associations, List.getElem?_map, Option.map_eq_some_iff] at listed
    obtain ⟨a, ha, rfl⟩ := listed
    refine ⟨.association a.1 (some a.2), ?_, rfl⟩
    have hn : (p.associations.map fun a => Source.Descriptor.association a.1 (some a.2))[
        p.rank .plain i]? = some (.association a.1 (some a.2)) := by
      rw [List.getElem?_map, ha]
      rfl
    have found := getElem?_append_length (p.attributes.map .attribute) hn
      (p.redefinitions.map .redefinition ++ p.derivedUnions.map .derivedUnion)
    rw [← List.append_assoc, ← descriptors_calls] at found
    simpa using found
  · rename_i hr
    cases hk
    rw [hr, ← hp.redefinitions] at listed
    refine ⟨.redefinition e, ?_, rfl⟩
    have hn : (p.redefinitions.map Source.Descriptor.redefinition)[p.rank .redefinition i]? =
        some (.redefinition e) := by
      rw [List.getElem?_map, listed]
      rfl
    have found := getElem?_append_length (p.attributes.map .attribute ++
      p.associations.map (fun a => .association a.1 (some a.2))) hn
      (p.derivedUnions.map .derivedUnion)
    rw [← descriptors_calls] at found
    simpa using found
  · rename_i hr
    cases hk
    rw [hr, ← hp.derivedUnions, List.getElem?_map, Option.map_eq_some_iff] at listed
    obtain ⟨u, hu, rfl⟩ := listed
    exact ⟨.derivedUnion u, getElem?_unionPlace hu, rfl⟩
  · cases hk
  · cases hk

end Plan

namespace Source

/-! ## Lookups -/

theorem Descriptor.className_of_end? {d : Descriptor} {e : End} (h : d.end? = some e) :
    e.className = d.className ∧ e.name = d.name := by
  cases d <;> cases h <;> exact ⟨rfl, rfl⟩

theorem Recording.kind_described (r : Recording) (class? : String → Option ClassId)
    (u : DerivedUnion) : (r.described class? (.derivedUnion u)).kind = .derivedUnion := rfl

namespace Assembled

variable {t : Target} {header : String} {r : Recording} {classes : List ClassDef} {f : File}

/-- The lookup of an end that is declared finds its property, whatever else is inherited. -/
theorem find_lookupOf (h : Assembled t header r classes f) {n : Nat} {x : Descriptor × Nat}
    (hx : r.rendered[n]? = some x) {e : End} (he : x.1.end? = some e) :
    f.find (f.filled r) (lookupOf f.scope e) = .ok (some n) := by
  obtain ⟨className, name⟩ := Descriptor.className_of_end? he
  have recorded := Recording.className_mem_of_mem_rendered (List.mem_of_getElem? hx)
  obtain ⟨c, hlt, hc, hc'⟩ := h.exists_class recorded
  have owner : (lookupOf f.scope e).owner = identifierFor x.1.className := by
    have known := h.mem_classes_scope.2 recorded
    simp [lookupOf, Scope.class?, className, known]
  have declaration : (f.declarations r)[n]? =
      some (r.declaration f.bare.classNamed? f.scope x.1) := by
    rw [File.declarations, List.getElem?_map, hx]
    rfl
  have number : (r.declaration f.bare.classNamed? f.scope x.1).owner = c := by
    rw [Recording.declaration, hc']
    rfl
  have own := Schema.own?_holding (f.classes.map f.bareClass) h.keys_nodup
    (by simpa [number] using hlt) declaration
  have term : (r.declaration f.bare.classNamed? f.scope x.1).term.name = x.1.name :=
    r.name_construction _ _ x.1
  rw [number, term] at own
  have found : (f.filled r).lookup? c e.name = some n := by
    rw [name]
    exact Schema.lookup?_of_own? own
  rw [File.find, owner, hc]
  exact congrArg Except.ok found

/-- The lookup of an end reaches the place of its descriptor if that is declared. -/
theorem reaches_of_isRendered (h : Assembled t header r classes f) {k : Nat}
    (hk : r.IsRendered k) {d : Descriptor} (hd : r.descriptors[k]? = some d) {e : End}
    (he : d.end? = some e) : f.Reaches r (f.filled r) (lookupOf f.scope e) (some k) := by
  obtain ⟨n, hn⟩ := Recording.exists_of_isRendered hk hd
  exact ⟨k, n, rfl, Recording.made?_eq_some hn, h.find_lookupOf hn he⟩

theorem property?_filled (h : Assembled t header r classes f) {n : Nat} {x : Descriptor × Nat}
    (hx : r.rendered[n]? = some x) :
    (f.filled r).property? n = some (r.described f.bare.classNamed? x.1) := by
  rw [Schema.property?, h.properties_filled, List.getElem?_map, hx]
  rfl

end Assembled

/-- A union has a statement if its name and that of a member are declared. -/
theorem mem_subsetsOf {s : Scope} {names : List String} {u : DerivedUnion}
    {x : SubsetsStatement} :
    x ∈ subsetsOf s names u ↔ u.toEnd.qualified ∈ names ∧
      (∃ m ∈ u.members, m.qualified ∈ names) ∧
      x = { union := lookupOf s u.toEnd
            members := (u.members.filter (·.qualified ∈ names)).map (lookupOf s) } := by
  have same : (fun e : End => names.contains e.qualified) =
      fun e => decide (e.qualified ∈ names) := by
    funext e
    rw [List.contains_eq_mem]
  have some : (u.members.filter fun e => decide (e.qualified ∈ names)).isEmpty = false ↔
      ∃ m ∈ u.members, m.qualified ∈ names := by
    simp [List.isEmpty_eq_false_iff, List.filter_eq_nil_iff]
  simp only [subsetsOf, same, Bool.not_eq_true', some, List.contains_iff_mem]
  split
  · rename_i h
    rw [List.mem_singleton]
    exact ⟨fun hx => ⟨h.1, h.2, hx⟩, fun hx => hx.2.2⟩
  · rename_i h
    exact ⟨fun hx => absurd hx List.not_mem_nil, fun hx => absurd ⟨hx.1, hx.2.1⟩ h⟩

/-- What the statement about a union of a plan says. -/
theorem mem_subsetsOf_iff {p : Plan} (hp : p.Sorted) {j : Nat} {u : DerivedUnion}
    (hu : p.derivedUnions[j]? = some u) {s : Scope} {names : List String} {x : SubsetsStatement} :
    x ∈ subsetsOf s names u ↔ u.toEnd.qualified ∈ names ∧
      (∃ m ∈ p.membersOf u.toEnd.name, m.1.qualified ∈ names) ∧
      x = { union := lookupOf s u.toEnd
            members := ((p.membersOf u.toEnd.name).filter (·.1.qualified ∈ names)).map
              fun m => lookupOf s m.1 } := by
  rw [mem_subsetsOf, hp.members u (List.mem_of_getElem? hu), List.filter_map, List.map_map]
  simp only [List.mem_map, exists_exists_and_eq_and]
  rfl

/-! ## The condition -/

section Plans

variable {t : Target} {header : String} {p : Plan} {classes : List ClassDef} {f : File}

theorem linksOwn_of_keepsNames (hp : p.Sorted)
    (h : Assembled t header (.ofCalls p.calls) classes f)
    (keeps : p.KeepsNames (.ofCalls p.calls)) :
    f.LinksOwn p (.ofCalls p.calls) (f.filled (.ofCalls p.calls)) := by
  intro j u hu x hx
  obtain ⟨hq, hm, rfl⟩ := (mem_subsetsOf_iff hp hu).1 hx
  obtain ⟨union, members⟩ := keeps j u hu hq hm
  constructor
  · obtain ⟨n, hn⟩ := Recording.exists_of_isRendered union (Plan.getElem?_unionPlace hu)
    exact ⟨n, _, Recording.made?_eq_some hn, h.find_lookupOf hn rfl, h.property?_filled hn,
      Recording.kind_described _ _ u⟩
  · rw [List.forall₂_map_left_iff, List.forall₂_same]
    intro m hm
    obtain ⟨hm, hq⟩ := List.mem_filter.1 hm
    obtain ⟨k, hk, rendered⟩ := members m hm (of_decide_eq_true hq)
    obtain ⟨d, hd, he⟩ := Plan.exists_getElem?_place hp (Plan.getElem?_of_mem_membersOf hm) hk
    rw [hk]
    exact h.reaches_of_isRendered rendered hd he

theorem keepsNames_of_linksOwn (hp : p.Sorted) {s : Schema}
    (links : f.LinksOwn p (.ofCalls p.calls) s) : p.KeepsNames (.ofCalls p.calls) := by
  intro j u hu hq hm
  obtain ⟨⟨n, -, hn, -⟩, members⟩ := links j u hu _ ((mem_subsetsOf_iff hp hu).2 ⟨hq, hm, rfl⟩)
  refine ⟨Recording.isRendered_of_made? hn, ?_⟩
  intro m hm hmq
  rw [List.forall₂_map_left_iff, List.forall₂_same] at members
  obtain ⟨k, n, hk, hn, -⟩ := members m (List.mem_filter.2 ⟨hm, decide_eq_true hmq⟩)
  exact ⟨k, hk, Recording.isRendered_of_made? hn⟩

theorem exists_forall₂ {α β γ : Type} {R : α → β → Prop} {S : α → γ → Prop}
    (each : ∀ a b, R a b → ∃ c, S a c) {as : List α} {bs : List β} (h : List.Forall₂ R as bs) :
    ∃ cs, List.Forall₂ S as cs := by
  induction h with
  | nil => exact ⟨[], .nil⟩
  | cons hab _ ih =>
    obtain ⟨c, hc⟩ := each _ _ hab
    obtain ⟨cs, hcs⟩ := ih
    exact ⟨c :: cs, .cons hc hcs⟩

/-- Statements that find the properties of the very ends they are about are all run. -/
theorem exists_links_of_linksOwn (h : Assembled t header (.ofCalls p.calls) classes f) {s : Schema}
    (own : f.LinksOwn p (.ofCalls p.calls) s) : ∃ ls, List.Forall₂ (f.Links s) f.subsets ls := by
  have each : ∀ x ∈ f.subsets, ∃ l, f.Links s x l := by
    intro x hx
    rw [h.subsets_eq] at hx
    obtain ⟨u, hu, hx⟩ := List.mem_flatMap.1 hx
    rw [Recording.ofCalls_calls] at hu
    obtain ⟨j, hj⟩ := List.mem_iff_getElem?.1 hu
    obtain ⟨⟨n, q, -, hn, hq, kind⟩, members⟩ := own j u hj x hx
    have found : ∃ is, List.Forall₂ (fun m i => f.find s m = .ok (some i)) x.members is := by
      refine exists_forall₂ ?_ members
      rintro l m ⟨k, i, -, -, hi⟩
      exact ⟨i, hi⟩
    obtain ⟨is, his⟩ := found
    exact ⟨(n, is), hn, his, by rw [hq, Option.map_some, kind]⟩
  exact exists_forall₂ (fun _ _ hl => hl) (List.forall₂_same.2 each)

end Plans

/-- In the file for a plan, statements about derived unions find the properties that were declared
for the very union and the very ends they are about, if and only if no union that has a statement,
and no end that a statement names, was left out for another property of its qualified name. Then
all of these statements are run. -/
theorem linksOwn_iff_of_resolve {g : Graph} {policy : Policy} {cv : Conventions} {t : Target}
    {header : String} {f : File} (resolved : (resolve g policy cv).fault? = none)
    (hf : assemble t header (.ofCalls (resolve g policy cv).plan.calls) = .ok f) :
    let p := (resolve g policy cv).plan
    let r := Recording.ofCalls p.calls
    ∃ s, f.runProperties = .ok s ∧
      s.properties = r.rendered.map (fun x => r.described s.classNamed? x.1) ∧
      f.subsets = p.derivedUnions.flatMap (subsetsOf f.scope r.names) ∧
      (f.LinksOwn p r s ↔ p.KeepsNames r) ∧
      (p.KeepsNames r →
        ∃ ls, List.Forall₂ (f.Links s) f.subsets ls ∧ f.runSubsets s = .ok (s.linked ls)) := by
  intro p r
  obtain ⟨classes, h⟩ := assembled_of_assemble hf
  have hp : p.Sorted := sorted_of_resolve resolved
  have subsets : f.subsets = p.derivedUnions.flatMap (subsetsOf f.scope r.names) := by
    have unions : r.unions = p.derivedUnions := by
      rw [show r = _ from Recording.ofCalls_calls p]
    rw [h.subsets_eq, ← unions]
  refine ⟨f.filled r, h.runProperties_eq, ?_, subsets, ?_, ?_⟩
  · rw [f.classNamed?_filled r]
    exact h.properties_filled
  · exact ⟨keepsNames_of_linksOwn hp, linksOwn_of_keepsNames hp h⟩
  · intro keeps
    obtain ⟨ls, hls⟩ := exists_links_of_linksOwn h (linksOwn_of_keepsNames hp h keeps)
    exact ⟨ls, hls, File.runSubsets_eq h.distinct hls⟩

/-- A car whose parts are the union of its wheels, with one more attribute. -/
def car (other : String) : Graph where
  elements :=
    [⟨"car", "Class", [("name", .scalar "Car"), ("ownedAttribute", .refList ["other"])]⟩,
     ⟨"other", "Property", [("name", .scalar other)]⟩,
     ⟨"parts", "Property",
       [("name", .scalar "parts"), ("class_", .ref "car"), ("type", .ref "car"),
        ("isDerived", .scalar "1")]⟩,
     ⟨"whole", "Property", [("type", .ref "car")]⟩,
     ⟨"composition", "Association", [("memberEnd", .refList ["parts", "whole"])]⟩,
     ⟨"wheels", "Property",
       [("name", .scalar "wheels"), ("class_", .ref "car"), ("type", .ref "car"),
        ("appliedStereotype", .ref "applied")]⟩,
     ⟨"hub", "Property", [("type", .ref "car")]⟩,
     ⟨"mounting", "Association", [("memberEnd", .refList ["wheels", "hub"])]⟩,
     ⟨"applied", "InstanceSpecification", [("slot", .ref "slot")]⟩,
     ⟨"slot", "Slot", [("definingFeature", .ref "subsets"), ("value", .scalar "parts")]⟩,
     ⟨"subsets", "Property", [("name", .scalar "subsets")]⟩]
  ids_nodup := (by decide : ["car", "other", "parts", "whole", "composition", "wheels", "hub",
    "mounting", "applied", "slot", "subsets"].Nodup)
  ids_ne := by simp

/-- With an attribute of another name every statement finds its properties. -/
theorem linksOwn_car :
    ∃ f s, (resolve (car "color") .none {}).fault? = none ∧
      assemble {} "" (.ofCalls (resolve (car "color") .none {}).plan.calls) = .ok f ∧
      f.runProperties = .ok s ∧
      f.subsets = [{ union := ⟨"Car", "parts"⟩, members := [⟨"Car", "wheels"⟩] }] ∧
      f.LinksOwn (resolve (car "color") .none {}).plan
        (.ofCalls (resolve (car "color") .none {}).plan.calls) s ∧
      ∃ ls, f.runSubsets s = .ok (s.linked ls) := by
  let p := (resolve (car "color") .none {}).plan
  let r := Recording.ofCalls p.calls
  have resolved : (resolve (car "color") .none {}).fault? = none := by decide +kernel
  have recorded : r.classes = [⟨⟨"car", "Car"⟩, []⟩] ∧ r.enumerations = [] := by decide +kernel
  have ordered : classOrder r.classes = .ok [0] := by
    rw [recorded.1]
    decide +kernel
  have hf := assemble_of_takeAll {} "" (by decide +kernel) ordered
    (by rw [recorded.1]; rfl) (by rw [recorded.2]; rfl)
  have kept : p.derivedUnions.zipIdx.all (fun x =>
      (r.rendered.map (·.2)).contains (p.unionPlace x.2) &&
        (p.membersOf x.1.toEnd.name).all fun m =>
          (p.place? m.2).any (r.rendered.map (·.2)).contains) = true := by decide +kernel
  have keeps : p.KeepsNames r := by
    intro j u hu _ _
    have all := List.all_eq_true.1 kept (u, j) (List.mem_zipIdx_iff_getElem?.2 hu)
    rw [Bool.and_eq_true] at all
    refine ⟨List.contains_iff_mem.1 all.1, ?_⟩
    intro m hm _
    obtain ⟨k, hk, rendered⟩ := (Option.any_eq_true _ _).1 (List.all_eq_true.1 all.2 m hm)
    exact ⟨k, hk, List.contains_iff_mem.1 rendered⟩
  obtain ⟨s, hs, -, -, own, run⟩ := linksOwn_iff_of_resolve resolved hf
  obtain ⟨ls, -, hls⟩ := run keeps
  exact ⟨_, s, resolved, hf, hs, by decide +kernel, own.2 keeps, ls, hls⟩

/-- An attribute of the name of the union takes its place. -/
theorem not_linksOwn_car :
    (resolve (car "parts") .none {}).fault? = none ∧
    ∃ f s, assemble {} "" (.ofCalls (resolve (car "parts") .none {}).plan.calls) = .ok f ∧
      f.runProperties = .ok s ∧
      f.runSubsets s = .error (.refused (.notUnion "Car.parts")) ∧
      ¬f.LinksOwn (resolve (car "parts") .none {}).plan
        (.ofCalls (resolve (car "parts") .none {}).plan.calls) s := by
  let p := (resolve (car "parts") .none {}).plan
  let r := Recording.ofCalls p.calls
  have recorded : r.classes = [⟨⟨"car", "Car"⟩, []⟩] ∧ r.enumerations = [] := by decide +kernel
  have ordered : classOrder r.classes = .ok [0] := by
    rw [recorded.1]
    decide +kernel
  have hf := assemble_of_takeAll {} "" (by decide +kernel) ordered
    (by rw [recorded.1]; rfl) (by rw [recorded.2]; rfl)
  let f := assembled {} "" r ([0].filterMap fun i => r.classes[i]?)
  have refused : f.runSubsets (f.filled r) = .error (.refused (.notUnion "Car.parts")) := by
    decide +kernel
  obtain ⟨classes, h⟩ := assembled_of_assemble hf
  refine ⟨by decide +kernel, _, _, hf, h.runProperties_eq, refused, ?_⟩
  intro own
  obtain ⟨ls, hls⟩ := exists_links_of_linksOwn h own
  rw [File.runSubsets_eq h.distinct hls] at refused
  cases refused

end Source

end ModelCompiler
