import FlowDeck.Proofs.Hierarchy.Depth
import Mathlib.Logic.Function.Basic

/-!
# Attaching children

Children are attached one after the other, each where its identifier is listed last, or else at the end. Taken
together, the new identifiers follow those that were listed, and every child gets the last layout that is
prescribed for it, at the place where it is listed last (`attach_children`). So lists of children act on
descriptors, and attaching the same children again changes nothing. But a child is read where it is listed first:
of a child that is listed twice the new layout is not read.
-/

namespace FlowDeck

namespace Descriptor

variable {children refs more : List ChildRef} {ref c : ChildRef} {listed : List String} {id : String}
variable {f g : ChildRef → ChildRef} {d : Descriptor}

/-! ## What new children say -/

def lastLayout? (refs : List ChildRef) (id : String) : Option String :=
  ((refs.filter fun ref => ref.id = id ∧ ref.layout ≠ "").getLast?).map (·.layout)

/-- A child with the layout that the new children prescribe for it, if they do. An empty identifier is none. -/
def given (refs : List ChildRef) (c : ChildRef) : ChildRef :=
  if c.id = "" then c else { c with layout := (lastLayout? refs c.id).getD c.layout }

def newIds (listed : List String) (refs : List ChildRef) : List String :=
  ((refs.map (·.id)).filter fun id => id ≠ "" ∧ id ∉ listed).eraseDups

theorem lastLayout?_append (refs more : List ChildRef) (id : String) :
    lastLayout? (refs ++ more) id = (lastLayout? more id).or (lastLayout? refs id) := by
  rw [lastLayout?, List.filter_append, List.getLast?_append, Option.map_or]
  rfl

theorem lastLayout?_singleton (ref : ChildRef) (id : String) :
    lastLayout? [ref] id = if ref.id = id ∧ ref.layout ≠ "" then some ref.layout else none := by
  rw [lastLayout?, List.filter_singleton]
  by_cases h : ref.id = id ∧ ref.layout ≠ "" <;> simp [h]

theorem lastLayout?_eq_none (h : id ∉ refs.map (·.id)) : lastLayout? refs id = none := by
  have none_of : (refs.filter fun ref => ref.id = id ∧ ref.layout ≠ "") = [] := by
    rw [List.filter_eq_nil_iff]
    intro ref hr
    simpa using fun same => absurd (List.mem_map.2 ⟨ref, hr, same⟩) h
  rw [lastLayout?, none_of]
  rfl

@[simp] theorem given_id (refs : List ChildRef) (c : ChildRef) : (given refs c).id = c.id := by
  unfold given
  split <;> rfl

theorem given_append (refs more : List ChildRef) (c : ChildRef) :
    given (refs ++ more) c = given more (given refs c) := by
  unfold given
  by_cases h : c.id = ""
  · simp [h]
  · rw [if_neg h, if_neg h, if_neg h, lastLayout?_append]
    cases lastLayout? more c.id <;> rfl

theorem given_given (refs : List ChildRef) (c : ChildRef) : given refs (given refs c) = given refs c := by
  unfold given
  by_cases h : c.id = ""
  · simp [h]
  · rw [if_neg h, if_neg h]
    cases lastLayout? refs c.id <;> rfl

theorem given_of_not_mem (h : c.id ∉ refs.map (·.id)) : given refs c = c := by
  unfold given
  split
  · rfl
  · rw [lastLayout?_eq_none h]
    rfl

/-- One new child takes the place of the listed one if it has a layout. -/
theorem given_singleton (ref c : ChildRef) :
    given [ref] c = if ref.id ≠ "" ∧ c.id = ref.id ∧ ref.layout ≠ "" then ref else c := by
  unfold given
  rw [lastLayout?_singleton]
  obtain ⟨id, layout⟩ := ref
  by_cases same : c.id = id
  · subst same
    by_cases unnamed : c.id = ""
    · simp [unnamed]
    · by_cases blank : layout = "" <;> simp [unnamed, blank]
  · simp [same, Ne.symm same]

theorem mem_newIds : id ∈ newIds listed refs ↔ id ∈ refs.map (·.id) ∧ id ≠ "" ∧ id ∉ listed := by
  rw [newIds, List.mem_eraseDups, List.mem_filter, decide_eq_true_eq]

theorem eraseDups_concat (ids : List String) (id : String) :
    (ids ++ [id]).eraseDups = if id ∈ ids then ids.eraseDups else ids.eraseDups ++ [id] := by
  rw [List.eraseDups_append, List.removeAll, List.filter_singleton]
  by_cases h : id ∈ ids <;> simp [h, List.eraseDups_cons]

theorem newIds_concat (listed : List String) (refs : List ChildRef) (ref : ChildRef) :
    newIds listed (refs ++ [ref]) =
      if ref.id = "" ∨ ref.id ∈ listed ++ newIds listed refs then newIds listed refs
      else newIds listed refs ++ [ref.id] := by
  have known : (ref.id = "" ∨ ref.id ∈ listed ++ newIds listed refs) ↔
      ref.id = "" ∨ ref.id ∈ listed ∨ ref.id ∈ refs.map (·.id) := by
    rw [List.mem_append, mem_newIds]
    tauto
  simp only [known]
  rw [newIds, List.map_append, List.map_singleton, List.filter_append, List.filter_singleton]
  by_cases old : ref.id = "" ∨ ref.id ∈ listed
  · have dropped : decide (ref.id ≠ "" ∧ ref.id ∉ listed) = false := by simpa using or_iff_not_imp_left.1 old
    rw [dropped, if_pos (old.imp_right .inl)]
    exact congrArg List.eraseDups (List.append_nil _)
  · rw [not_or] at old
    have kept : decide (ref.id ≠ "" ∧ ref.id ∉ listed) = true := decide_eq_true old
    rw [kept, cond_true, eraseDups_concat]
    simp only [List.mem_filter, kept, and_true, or_assoc.symm, or_iff_right (not_or.2 old)]
    rfl

/-! ## Entries that are listed last -/

def mapLast (f : ChildRef → ChildRef) : List ChildRef → List ChildRef
  | [] => []
  | c :: rest => (if c.id ∈ rest.map (·.id) then c else f c) :: mapLast f rest

theorem map_id_mapLast (hf : ∀ c, (f c).id = c.id) (children : List ChildRef) :
    (mapLast f children).map (·.id) = children.map (·.id) := by
  induction children with
  | nil => rfl
  | cons c rest ih =>
    rw [mapLast, List.map_cons, List.map_cons, ih]
    split
    · rfl
    · rw [hf]

theorem mapLast_mapLast (hf : ∀ c, (f c).id = c.id) (children : List ChildRef) :
    mapLast g (mapLast f children) = mapLast (g ∘ f) children := by
  induction children with
  | nil => rfl
  | cons c rest ih =>
    rw [mapLast, mapLast, mapLast, ih, map_id_mapLast hf]
    by_cases h : c.id ∈ rest.map (·.id)
    · rw [if_pos h, if_pos h, if_pos h]
    · rw [if_neg h, if_neg h, hf, if_neg h, Function.comp_apply]

theorem mapLast_congr (h : ∀ c ∈ children, f c = g c) : mapLast f children = mapLast g children := by
  induction children with
  | nil => rfl
  | cons c rest ih =>
    rw [mapLast, mapLast, h c List.mem_cons_self, ih fun c hc => h c (List.mem_cons_of_mem _ hc)]

theorem mapLast_eq_self (h : ∀ c ∈ children, f c = c) : mapLast f children = children := by
  induction children with
  | nil => rfl
  | cons c rest ih =>
    rw [mapLast, h c List.mem_cons_self, ite_self, ih fun c hc => h c (List.mem_cons_of_mem _ hc)]

theorem mapLast_concat (h : c.id ∉ children.map (·.id)) :
    mapLast f (children ++ [c]) = mapLast f children ++ [f c] := by
  induction children with
  | nil => simp [mapLast]
  | cons d rest ih =>
    rw [List.map_cons, List.mem_cons, not_or] at h
    have later : d.id ∈ (rest ++ [c]).map (·.id) ↔ d.id ∈ rest.map (·.id) := by
      simp [Ne.symm h.1]
    simp only [List.cons_append, mapLast, ih h.2, later]

theorem replaceLast_eq (ref : ChildRef) (children : List ChildRef) :
    replaceLast ref children = mapLast (fun c => if c.id = ref.id then ref else c) children := by
  induction children with
  | nil => rfl
  | cons c rest ih =>
    rw [replaceLast, mapLast]
    by_cases same : c.id = ref.id
    · by_cases later : ref.id ∈ rest.map (·.id)
      · simp [same, later, ih]
      · have others : mapLast (fun c => if c.id = ref.id then ref else c) rest = rest :=
          mapLast_eq_self fun d hd => if_neg fun he => later (List.mem_map.2 ⟨d, hd, he⟩)
        simp [same, later, others]
    · simp [same, ih]

/-- What is found first is changed if it is listed once. -/
theorem find?_mapLast (hf : ∀ c, (f c).id = c.id) (children : List ChildRef) (id : String) :
    (mapLast f children).find? (fun c => c.id == id) =
      (children.find? fun c => c.id == id).map fun c =>
        if (children.map (·.id)).count id ≤ 1 then f c else c := by
  induction children with
  | nil => rfl
  | cons c rest ih =>
    rw [mapLast, List.find?_cons, List.find?_cons, List.map_cons, List.count_cons]
    have same_id : (if c.id ∈ rest.map (·.id) then c else f c).id = c.id := by
      split
      · rfl
      · exact hf c
    rw [same_id]
    by_cases same : c.id = id
    · subst same
      have once : (rest.map (·.id)).count c.id + 1 ≤ 1 ↔ c.id ∉ rest.map (·.id) := by
        rw [← List.count_eq_zero]
        omega
      simp only [beq_self_eq_true, if_true, Option.map_some, once, ite_not]
    · have other : (c.id == id) = false := beq_false_of_ne same
      simp only [other, ih, Bool.false_eq_true, if_false, Nat.add_zero]

/-! ## The list that comes of it -/

theorem attachRef_of_mem (hr : ref.id ≠ "") (h : ref.id ∈ children.map (·.id)) :
    attachRef children ref = mapLast (given [ref]) children := by
  rw [attachRef, if_neg hr, if_pos h]
  by_cases blank : ref.layout = ""
  · rw [if_pos blank]
    exact (mapLast_eq_self fun c _ => by rw [given_singleton, if_neg (by simp [blank])]).symm
  · rw [if_neg blank, replaceLast_eq]
    exact mapLast_congr fun c _ => by
      simp only [given_singleton, ne_eq, hr, blank, not_false_eq_true, and_true, true_and]

def extended (children refs : List ChildRef) : List ChildRef :=
  children ++ (newIds (children.map (·.id)) refs).map fun id => ⟨id, ""⟩

theorem map_id_extended (children refs : List ChildRef) :
    (extended children refs).map (·.id) = children.map (·.id) ++ newIds (children.map (·.id)) refs := by
  simp [extended, Function.comp_def]

theorem not_mem_of_not_mem_extended (hid : id ≠ "") (h : id ∉ (extended children refs).map (·.id)) :
    id ∉ refs.map (·.id) := by
  rw [map_id_extended, List.mem_append, not_or, mem_newIds] at h
  exact fun hm => h.2 ⟨hm, hid, h.1⟩

theorem extended_concat (children refs : List ChildRef) (ref : ChildRef) :
    extended children (refs ++ [ref]) =
      if ref.id = "" ∨ ref.id ∈ (extended children refs).map (·.id) then extended children refs
      else extended children refs ++ [⟨ref.id, ""⟩] := by
  rw [map_id_extended, extended, newIds_concat]
  split
  · rfl
  · rw [List.map_append, ← List.append_assoc]
    rfl

theorem extended_singleton (children : List ChildRef) (ref : ChildRef) :
    extended children [ref] =
      if ref.id = "" ∨ ref.id ∈ children.map (·.id) then children else children ++ [⟨ref.id, ""⟩] := by
  have nothing_new : extended children [] = children := List.append_nil _
  have one := extended_concat children [] ref
  rwa [nothing_new] at one

theorem given_new (ref : ChildRef) (hr : ref.id ≠ "") : given [ref] ⟨ref.id, ""⟩ = ref := by
  rw [given_singleton]
  obtain ⟨id, layout⟩ := ref
  by_cases blank : layout = ""
  · simp [blank]
  · exact if_pos ⟨hr, rfl, blank⟩

theorem attachRef_eq (children : List ChildRef) (ref : ChildRef) :
    attachRef children ref = mapLast (given [ref]) (extended children [ref]) := by
  rw [extended_singleton]
  by_cases unnamed : ref.id = ""
  · have nothing_given : ∀ c ∈ children, given [ref] c = c := fun c _ => by
      rw [given_singleton, if_neg fun h => h.1 unnamed]
    rw [if_pos (.inl unnamed), attachRef, if_pos unnamed, mapLast_eq_self nothing_given]
  by_cases known : ref.id ∈ children.map (·.id)
  · rw [if_pos (.inr known), attachRef_of_mem unnamed known]
  · have others : mapLast (given [ref]) children = children := mapLast_eq_self fun c hc => by
      rw [given_singleton, if_neg fun h => known (List.mem_map.2 ⟨c, hc, h.2.1⟩)]
    have new : mapLast (given [ref]) (children ++ [⟨ref.id, ""⟩]) =
        mapLast (given [ref]) children ++ [given [ref] ⟨ref.id, ""⟩] := mapLast_concat known
    rw [if_neg (not_or.2 ⟨unnamed, known⟩), new, others, given_new ref unnamed, attachRef, if_neg unnamed, if_neg known]

/-- Nothing has been prescribed yet for a child that is new. -/
theorem mapLast_extended_concat (refs children : List ChildRef) (ref : ChildRef) :
    mapLast (given refs) (extended children (refs ++ [ref])) =
      extended (mapLast (given refs) (extended children refs)) [ref] := by
  rw [extended_concat, extended_singleton, map_id_mapLast (given_id refs)]
  split
  · rfl
  · next new =>
    rw [not_or] at new
    have untouched : given refs ⟨ref.id, ""⟩ = ⟨ref.id, ""⟩ :=
      given_of_not_mem (not_mem_of_not_mem_extended new.1 new.2)
    have appended : mapLast (given refs) (extended children refs ++ [⟨ref.id, ""⟩]) =
        mapLast (given refs) (extended children refs) ++ [given refs ⟨ref.id, ""⟩] :=
      mapLast_concat new.2
    rw [appended, untouched]

/-- The new identifiers come behind those that are listed, and every child that is listed last gets what the new
children prescribe for it. -/
theorem foldl_attachRef (refs children : List ChildRef) :
    refs.foldl attachRef children = mapLast (given refs) (extended children refs) := by
  -- The last child is attached to a list that has the closed form, so one step has to keep it.
  induction refs using List.reverseRecOn with
  | nil =>
    have nothing_new : extended children [] = children := List.append_nil _
    rw [nothing_new]
    exact (mapLast_eq_self fun c _ => given_of_not_mem (by simp)).symm
  | append_singleton refs ref ih =>
    have given_concat : given [ref] ∘ given refs = given (refs ++ [ref]) := (funext (given_append refs [ref])).symm
    calc (refs ++ [ref]).foldl attachRef children
        = attachRef (mapLast (given refs) (extended children refs)) ref := by rw [List.foldl_append, ih]; rfl
      _ = mapLast (given [ref]) (mapLast (given refs) (extended children (refs ++ [ref]))) := by
          rw [attachRef_eq, mapLast_extended_concat]
      _ = mapLast (given (refs ++ [ref])) (extended children (refs ++ [ref])) := by
          rw [mapLast_mapLast (given_id refs), given_concat]

theorem attach_children (d : Descriptor) (refs : List ChildRef) :
    (d.attach refs).children = mapLast (given refs) (extended d.children refs) :=
  foldl_attachRef refs d.children

theorem attach_attach (d : Descriptor) (refs more : List ChildRef) :
    (d.attach refs).attach more = d.attach (refs ++ more) := by
  simp only [attach, List.foldl_append]

theorem childIds_attach (d : Descriptor) (refs : List ChildRef) :
    (d.attach refs).childIds = d.childIds ++ newIds d.childIds refs := by
  rw [childIds, attach_children, map_id_mapLast (given_id refs), map_id_extended]
  rfl

theorem mem_childIds_attach :
    id ∈ (d.attach refs).childIds ↔ id ∈ d.childIds ∨ id ≠ "" ∧ id ∈ refs.map (·.id) := by
  rw [childIds_attach, List.mem_append, mem_newIds]
  tauto

theorem childIds_subset_attach (d : Descriptor) (refs : List ChildRef) : d.childIds ⊆ (d.attach refs).childIds :=
  fun _ h => mem_childIds_attach.2 (.inl h)

theorem newIds_childIds_attach (d : Descriptor) (refs : List ChildRef) : newIds (d.attach refs).childIds refs = [] := by
  refine List.eq_nil_iff_forall_not_mem.2 fun id h => ?_
  rw [mem_newIds, mem_childIds_attach] at h
  exact h.2.2 (.inr ⟨h.2.1, h.1⟩)

theorem attach_again (d : Descriptor) (refs : List ChildRef) : (d.attach refs).attach refs = d.attach refs := by
  have complete : extended (d.attach refs).children refs = (d.attach refs).children := by
    have nothing_new : newIds ((d.attach refs).children.map (·.id)) refs = [] := newIds_childIds_attach d refs
    rw [extended, nothing_new]
    exact List.append_nil _
  have again : ((d.attach refs).attach refs).children = (d.attach refs).children := by
    have twice : given refs ∘ given refs = given refs := funext (given_given refs)
    rw [attach_children, complete, attach_children, mapLast_mapLast (given_id refs), twice]
  exact congrArg (fun children => { d with children }) again

/-! ## Places on the list -/

def lastPlaces (ids : List String) : String → Option Nat :=
  ids.zipIdx.foldl (fun place (id, i) => Function.update place id (some i)) fun _ => none

theorem lastPlaces_concat (ids : List String) (id : String) :
    lastPlaces (ids ++ [id]) = Function.update (lastPlaces ids) id (some ids.length) := by
  rw [lastPlaces, List.zipIdx_append, List.foldl_append, Nat.zero_add]
  rfl

theorem lastPlaces_eq_none_iff {ids : List String} : lastPlaces ids id = none ↔ id ∉ ids := by
  induction ids using List.reverseRecOn with
  | nil => simp [lastPlaces]
  | append_singleton ids other ih =>
    rw [lastPlaces_concat]
    by_cases same : id = other
    · simp [same]
    · simp [same, ih]

theorem lastPlaces_lt {ids : List String} {i : Nat} (h : lastPlaces ids id = some i) : i < ids.length := by
  induction ids using List.reverseRecOn with
  | nil => simp [lastPlaces] at h
  | append_singleton ids other ih =>
    rw [lastPlaces_concat] at h
    rw [List.length_append, List.length_singleton]
    by_cases same : id = other
    · subst same
      rw [Function.update_self, Option.some.injEq] at h
      omega
    · rw [Function.update_of_ne same] at h
      have := ih h
      omega

theorem replaceLast_concat (ref c : ChildRef) (children : List ChildRef) :
    replaceLast ref (children ++ [c]) =
      if c.id = ref.id then children ++ [ref] else replaceLast ref children ++ [c] := by
  induction children with
  | nil => simp [replaceLast]
  | cons d rest ih =>
    rw [List.cons_append, replaceLast, replaceLast, ih]
    by_cases same : c.id = ref.id
    · simp [same]
    · have later : ref.id ∈ (rest ++ [c]).map (·.id) ↔ ref.id ∈ rest.map (·.id) := by
        simp [Ne.symm same]
      rw [if_neg same, if_neg same]
      simp only [later, apply_ite (· ++ [c]), List.cons_append]

/-- The entry that is replaced is the one at the last place of its identifier. -/
theorem set_lastPlace {i : Nat} (h : lastPlaces (children.map (·.id)) ref.id = some i) :
    children.set i ref = replaceLast ref children := by
  induction children using List.reverseRecOn with
  | nil => rfl
  | append_singleton children c ih =>
    rw [List.map_append, List.map_singleton, lastPlaces_concat] at h
    rw [replaceLast_concat]
    by_cases same : c.id = ref.id
    · rw [same, Function.update_self, Option.some.injEq, List.length_map] at h
      rw [if_pos same, ← h]
      simp
    · rw [Function.update_of_ne (Ne.symm same)] at h
      have before := lastPlaces_lt h
      rw [List.length_map] at before
      rw [if_neg same, List.set_append_left _ _ before, ih h]

/-- A list of children with the place at which each identifier stands last, as it is kept while children are
attached. -/
structure Register where
  entries : List ChildRef
  place? : String → Option Nat

namespace Register

def ofList (children : List ChildRef) : Register :=
  ⟨children, lastPlaces (children.map (·.id))⟩

/-- One child more: a child with a place gets a new entry there if it comes with a layout, and any other child
gets the next place. -/
def note (r : Register) (ref : ChildRef) : Register :=
  if ref.id = "" then r
  else
    match r.place? ref.id with
    | some i => if ref.layout = "" then r else { r with entries := r.entries.set i ref }
    | none => ⟨r.entries ++ [ref], Function.update r.place? ref.id (some r.entries.length)⟩

/-- The places that are kept are those that would be found on the list. -/
theorem note_ofList (children : List ChildRef) (ref : ChildRef) :
    (ofList children).note ref = ofList (attachRef children ref) := by
  unfold note attachRef
  by_cases unnamed : ref.id = ""
  · rw [if_pos unnamed, if_pos unnamed]
  rw [if_neg unnamed, if_neg unnamed]
  cases place : (ofList children).place? ref.id with
  | none =>
    rw [if_neg (lastPlaces_eq_none_iff.1 place), ofList, ofList, List.map_append, List.map_singleton, lastPlaces_concat,
      List.length_map]
  | some i =>
    have listed : ref.id ∈ children.map (·.id) := by
      by_contra absent
      have nowhere : (ofList children).place? ref.id = none := lastPlaces_eq_none_iff.2 absent
      rw [nowhere] at place
      cases place
    rw [if_pos listed]
    dsimp only
    split
    · rfl
    · rw [ofList, ofList, map_id_replaceLast, ← set_lastPlace place]

theorem foldl_note (children refs : List ChildRef) :
    refs.foldl note (ofList children) = ofList (refs.foldl attachRef children) := by
  induction refs generalizing children with
  | nil => rfl
  | cons ref refs ih => rw [List.foldl_cons, List.foldl_cons, note_ofList, ih]

end Register

/-- Lists of children act on descriptors: attaching two lists is attaching one after the other, whether the places
are carried on or found again on the list in between, and attaching a list again changes nothing. The children
that were listed stay where they are, the new ones come behind them in the order in which they first appear, and
nothing else is touched. -/
theorem attach_acts (d : Descriptor) (refs more : List ChildRef) :
    refs.foldl Register.note (.ofList d.children) = .ofList (d.attach refs).children ∧
      d.attach (refs ++ more) = (d.attach refs).attach more ∧
      (d.attach refs).attach refs = d.attach refs ∧
      (d.attach refs).childIds =
        d.childIds ++ ((refs.map (·.id)).filter fun id => id ≠ "" ∧ id ∉ d.childIds).eraseDups ∧
      (d.attach refs).current = d.current ∧ (d.attach refs).chain = d.chain ∧ (d.attach refs).layout = d.layout :=
  ⟨Register.foldl_note d.children refs, (attach_attach d refs more).symm, attach_again d refs, childIds_attach d refs,
    rfl, rfl, rfl⟩

/-! ## The entry that is read -/

theorem nodup_newIds (listed : List String) (refs : List ChildRef) : (newIds listed refs).Nodup := by
  induction refs using List.reverseRecOn with
  | nil => exact List.nodup_nil
  | append_singleton refs ref ih =>
    rw [newIds_concat]
    split
    · exact ih
    · next new =>
      have fresh : ref.id ∉ newIds listed refs := fun h => new (.inr (List.mem_append_right _ h))
      rw [← List.concat_eq_append]
      exact List.Nodup.concat fresh ih

theorem child?_eq_none_iff : d.child? id = none ↔ id ∉ d.childIds := by
  simp [child?, childIds]

theorem find?_extended (h : id ∈ (d.attach refs).childIds) :
    (extended d.children refs).find? (fun c => c.id == id) = some ((d.child? id).getD ⟨id, ""⟩) := by
  rw [extended, List.find?_append, ← child?]
  cases before : d.child? id with
  | some c => rfl
  | none =>
    have new : id ∈ newIds d.childIds refs := by
      rw [childIds_attach, List.mem_append] at h
      exact h.resolve_left (child?_eq_none_iff.1 before)
    have found : (newIds d.childIds refs).find? (fun other => other == id) = some id := by
      cases hf : (newIds d.childIds refs).find? fun other => other == id with
      | none => exact absurd (beq_self_eq_true id) (List.find?_eq_none.1 hf id new)
      | some other => exact congrArg some (by simpa using List.find?_some hf)
    rw [Option.none_or, List.find?_map]
    exact congrArg (Option.map fun id => (⟨id, ""⟩ : ChildRef)) found

theorem count_extended_le_one_iff :
    ((extended d.children refs).map (·.id)).count id ≤ 1 ↔ d.childIds.count id ≤ 1 := by
  rw [map_id_extended, List.count_append]
  have once := List.nodup_iff_count_le_one.1 (nodup_newIds d.childIds refs) id
  by_cases listed : id ∈ d.childIds
  · have old : (newIds d.childIds refs).count id = 0 := List.count_eq_zero.2 fun h => (mem_newIds.1 h).2.2 listed
    unfold childIds at old ⊢
    omega
  · have absent : d.childIds.count id = 0 := List.count_eq_zero.2 listed
    unfold childIds at absent once ⊢
    omega

/-- The entry that is read for a child is the one that was read before, or else a new one. Where the child was listed
twice it is left alone, else it has what the new children prescribe. -/
theorem child?_attach (h : id ∈ (d.attach refs).childIds) :
    (d.attach refs).child? id =
      let before := (d.child? id).getD ⟨id, ""⟩
      some (if d.childIds.count id ≤ 1 then given refs before else before) := by
  rw [child?, attach_children, find?_mapLast (given_id refs), find?_extended h]
  simp only [Option.map_some, count_extended_le_one_iff]

def layoutOf (d : Descriptor) (id : String) : String :=
  ((d.child? id).map (·.layout)).getD ""

theorem getD_child? (d : Descriptor) (id : String) : (d.child? id).getD ⟨id, ""⟩ = ⟨id, d.layoutOf id⟩ := by
  unfold layoutOf
  cases found : d.child? id with
  | none => rfl
  | some c =>
    have named : c.id = id := by simpa using List.find?_some found
    rw [← named]
    rfl

/-- After attaching children to a descriptor that was read from a text, each listed child has an entry. Its layout
is the last one prescribed for it, or else the one it had before, if and only if it was not listed twice or that
makes no difference; a child that was listed twice keeps the layout that it had. -/
theorem child?_attach_iff {text : String} (hd : read? text = some d) (refs : List ChildRef) (id : String)
    (h : id ∈ (d.attach refs).childIds) :
    ∃ ref, (d.attach refs).child? id = some ref ∧
      (ref.layout = (lastLayout? refs id).getD (d.layoutOf id) ↔
        d.childIds.count id ≤ 1 ∨ ∀ layout, lastLayout? refs id = some layout → layout = d.layoutOf id) ∧
      (1 < d.childIds.count id → ref.layout = d.layoutOf id) := by
  have named : id ≠ "" := by
    rcases mem_childIds_attach.1 h with listed | new
    · obtain ⟨c, hc, rfl⟩ := List.mem_map.1 listed
      exact ((wellFormed_of_read? hd).childIds c hc).ne_empty
    · exact new.1
  refine ⟨_, child?_attach h, ?_⟩
  rw [getD_child?]
  by_cases once : d.childIds.count id ≤ 1
  · have new : (given refs ⟨id, d.layoutOf id⟩).layout = (lastLayout? refs id).getD (d.layoutOf id) := by
      rw [given, if_neg named]
    simp only [if_pos once, new, true_iff]
    exact ⟨.inl once, fun twice => absurd once (Nat.not_le.2 twice)⟩
  · simp only [once, if_false, false_or, implies_true, and_true]
    cases lastLayout? refs id with
    | none => simp
    | some layout => simp [eq_comm]

/-- A child that is listed twice, and one that is new: what is prescribed for the first is not read. -/
theorem child?_attach_iff_twice : ∃ d, read? "graph[](LR)[A1][B1,B1:TD]" = some d ∧
    (∃ ref, (d.attach [⟨"B1", "DT"⟩, ⟨"B2", "RL"⟩, ⟨"B2", ""⟩]).child? "B1" = some ref ∧ ref.layout = "") ∧
      ∃ ref, (d.attach [⟨"B1", "DT"⟩, ⟨"B2", "RL"⟩, ⟨"B2", ""⟩]).child? "B2" = some ref ∧ ref.layout = "RL" := by
  have hd : read? "graph[](LR)[A1][B1,B1:TD]" = some ⟨"A1", [], "LR", [⟨"B1", ""⟩, ⟨"B1", "TD"⟩]⟩ := by decide
  refine ⟨_, hd, ?_, ?_⟩
  · obtain ⟨ref, found, -, kept⟩ := child?_attach_iff hd [⟨"B1", "DT"⟩, ⟨"B2", "RL"⟩, ⟨"B2", ""⟩] "B1" (by decide)
    exact ⟨ref, found, kept (by decide)⟩
  · obtain ⟨ref, found, read, -⟩ := child?_attach_iff hd [⟨"B1", "DT"⟩, ⟨"B2", "RL"⟩, ⟨"B2", ""⟩] "B2" (by decide)
    exact ⟨ref, found, read.2 (.inl (by decide))⟩

end Descriptor

end FlowDeck
