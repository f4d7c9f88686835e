import DocTree.Proofs.Tree.Lineage
import DocTree.Tree.Address
import Mathlib.Data.List.Nodup
import Mathlib.Data.List.Pairwise

/-!
# Taking children out

A `Removal` is an edit that takes children out of a sequence: the first of a kind, all of a kind, or
all of them.  Its effect on a tree is told by lineages.  `Prunes above gone before after` says that
`after` comes from `before` by dropping every lineage with a removed node in it, whether the node
itself or an ancestor; it holds at the node whose children are edited (`Prunes.children`) and is
kept on the way up to the root, beside the siblings (`Prunes.behind`, `Prunes.ahead`) and below the
parent (`Prunes.cons`).

The flat cells of a table are not met on a walk, so nothing is gone after a removal there.
-/

namespace DocTree
namespace Tree

section Removal

/-- An edit that takes children out. -/
inductive Removal
  | first (kind : NodeKind)
  | all (kind : NodeKind)
  | clear
deriving DecidableEq, Repr

namespace Removal

def edit : Removal → Edit
  | first kind => .removeFirst kind
  | all kind => .removeAll kind
  | clear => .clear

variable {α : Type} [Node α]

/-- The children that are taken out. -/
def taken : Removal → List α → List α
  | first kind, children => (Children.removeFirst kind children).1.toList
  | all kind, children => Children.allOf kind children
  | clear, children => children

def takenIds (removal : Removal) (children : List α) : List NodeId :=
  (removal.taken children).map Node.id

end Removal

namespace Children

variable {α : Type} [Node α]

/-- Taking out by position is taking out by search. -/
theorem removeFirst_eq (kind : NodeKind) (children : List α) :
    removeFirst kind children =
      (children.find? (isKind kind), children.eraseP (isKind kind)) := by
  rw [removeFirst, List.eraseP_eq_eraseIdx]
  cases hindex : children.findIdx? (isKind kind) with
  | none =>
      have hnone : children.find? (isKind kind) = none := by
        simpa using List.findIdx?_eq_none_iff.mp hindex
      rw [hnone]
  | some index =>
      obtain ⟨hlt, hkind, hbefore⟩ := List.findIdx?_eq_some_iff_getElem.mp hindex
      have hfirst : children.find? (isKind kind) = some children[index] :=
        List.find?_eq_some_iff_getElem.mpr
          ⟨hkind, index, hlt, rfl, fun j hj => by simpa using hbefore j hj⟩
      rw [hfirst]
      change (children[index]?, children.eraseIdx index) = _
      rw [List.getElem?_eq_getElem hlt]

end Children

namespace Removal

variable {α : Type} [Node α]

theorem apply_sublist (removal : Removal) (children : List α) :
    (removal.edit.apply children).Sublist children := by
  cases removal with
  | first kind =>
      rw [edit, Edit.apply, Children.removeFirst_eq]
      exact List.eraseP_sublist
  | all kind =>
      exact List.filter_sublist
  | clear =>
      exact List.nil_sublist children

/-- A removal depends on the ids and kinds of the children only. -/
theorem takenIds_map
    {β : Type} [Node β] (f : α → β)
    (hid : ∀ node, Node.id (f node) = Node.id node)
    (hkind : ∀ node, Node.kind (f node) = Node.kind node)
    (removal : Removal) (children : List α) :
    removal.takenIds (children.map f) = removal.takenIds children := by
  have hids : Node.id ∘ f = Node.id := by
    funext node
    exact hid node
  have hkinds : ∀ kind, Children.isKind kind ∘ f = Children.isKind kind := by
    intro kind
    funext node
    simp only [Function.comp_apply, Children.isKind, hkind]
  cases removal with
  | first kind =>
      simp only [takenIds, taken, Children.removeFirst_eq, List.find?_map, hkinds,
        Option.toList_map, List.map_map, hids]
  | all kind =>
      simp only [takenIds, taken, Children.allOf, List.filter_map, hkinds, List.map_map, hids]
  | clear =>
      simp only [takenIds, taken, List.map_map, hids]

/-- The children that are taken out and those that stay are all the children. -/
theorem perm_apply (removal : Removal) (children : List α) :
    (removal.taken children ++ removal.edit.apply children).Perm children := by
  cases removal with
  | first kind =>
      rw [edit, Edit.apply, taken, Children.removeFirst_eq]
      cases hfind : children.find? (Children.isKind kind) with
      | none =>
          rw [List.eraseP_of_forall_not (List.find?_eq_none.mp hfind)]
          exact List.Perm.refl children
      | some node =>
          obtain ⟨hkind, front, back, rfl, hfront⟩ := List.find?_eq_some_iff_append.mp hfind
          have hnone : ∀ other ∈ front, ¬ Children.isKind kind other := by
            intro other hother
            simpa using hfront other hother
          rw [List.eraseP_append_right _ hnone, List.eraseP_cons_of_pos hkind]
          change (node :: (front ++ back)).Perm (front ++ node :: back)
          exact List.perm_middle.symm
  | all kind =>
      exact List.filter_append_perm (Children.isKind kind) children
  | clear =>
      simp [edit, Edit.apply, taken]

theorem taken_subset (removal : Removal) (children : List α) :
    removal.taken children ⊆ children := by
  intro node hmem
  exact (removal.perm_apply children).subset (List.mem_append_left _ hmem)

/-- Among children with distinct ids, those that stay are told by their ids. -/
theorem apply_eq_filter
    (removal : Removal) {children : List α}
    (hnodup : (children.map Node.id).Nodup) :
    removal.edit.apply children =
      children.filter fun node => Node.id node ∉ removal.takenIds children := by
  -- Both sides are sublists of the children, one within the other, and of the same length.
  have hperm := removal.perm_apply children
  have hdisjoint := (hperm.map Node.id).nodup_iff.mpr hnodup
  rw [List.map_append, List.nodup_append] at hdisjoint
  have hleave : (removal.taken children).filter
      (fun node => Node.id node ∉ removal.takenIds children) = [] := by
    rw [List.filter_eq_nil_iff]
    intro node hnode
    have hgone : Node.id node ∈ removal.takenIds children := List.mem_map_of_mem hnode
    simpa using hgone
  have hstay : (removal.edit.apply children).filter
      (fun node => Node.id node ∉ removal.takenIds children) =
        removal.edit.apply children := by
    rw [List.filter_eq_self]
    intro node hnode
    have hne : Node.id node ∉ removal.takenIds children := fun hgone =>
      hdisjoint.2.2 _ hgone _ (List.mem_map_of_mem hnode) rfl
    simpa using hne
  have hlength := (hperm.filter fun node =>
    Node.id node ∉ removal.takenIds children).length_eq
  rw [List.filter_append, hleave, hstay, List.nil_append] at hlength
  have hsub := (removal.apply_sublist children).filter fun node =>
    Node.id node ∉ removal.takenIds children
  rw [hstay] at hsub
  exact hsub.eq_of_length hlength

end Removal

end Removal

section Spared

/-- Whether neither the node nor an ancestor of it is among the nodes that are gone. -/
def Lineage.spared (gone : List NodeId) (lineage : Lineage) : Bool :=
  lineage.line.all fun node => node.id ∉ gone

theorem Lineage.spared_iff {gone : List NodeId} {lineage : Lineage} :
    lineage.spared gone ↔ ∀ node ∈ lineage.line, node.id ∉ gone := by
  simp [Lineage.spared]

theorem Lineage.spared_append (gone gone' : List NodeId) (lineage : Lineage) :
    lineage.spared (gone ++ gone') = (lineage.spared gone && lineage.spared gone') := by
  rw [Bool.eq_iff_iff, Bool.and_eq_true]
  simp only [Lineage.spared_iff, List.mem_append, not_or]
  exact ⟨fun h => ⟨fun n hn => (h n hn).1, fun n hn => (h n hn).2⟩,
    fun h n hn => ⟨h.1 n hn, h.2 n hn⟩⟩

@[simp] theorem Lineage.spared_nil (lineage : Lineage) :
    lineage.spared [] := by
  simp [Lineage.spared]

/-- The ids of the nodes that lineages are about. -/
def metIds (lineages : List Lineage) : List NodeId :=
  lineages.map fun lineage => lineage.node.id

@[simp] theorem metIds_append (lineages lineages' : List Lineage) :
    metIds (lineages ++ lineages') = metIds lineages ++ metIds lineages' := by
  simp [metIds]

@[simp] theorem metIds_cons (lineage : Lineage) (lineages : List Lineage) :
    metIds (lineage :: lineages) = lineage.node.id :: metIds lineages := by
  rfl

theorem Descends.line
    {above : List NodeRef} {lineages : List Lineage} {lineage : Lineage} {node : NodeRef}
    (h : Descends above lineages)
    (hmem : lineage ∈ lineages)
    (hnode : node ∈ lineage.line) :
    node.id ∈ metIds lineages ∨ node ∈ above := by
  have hmet : ∀ n ∈ lineages.map Lineage.node, n.id ∈ metIds lineages := by
    intro n hn
    obtain ⟨l, hl, rfl⟩ := List.mem_map.mp hn
    exact List.mem_map_of_mem hl
  obtain ⟨between, heq, hbetween⟩ := h lineage hmem
  rw [Lineage.line, heq] at hnode
  rcases List.mem_cons.mp hnode with rfl | hnode
  · exact Or.inl (hmet _ (List.mem_map_of_mem hmem))
  · rcases List.mem_append.mp hnode with hnode | hnode
    · exact Or.inl (hmet node (hbetween node hnode))
    · exact Or.inr hnode

/-- Lineages that meet no removed node, and lie below none, all stay. -/
theorem Descends.filter_spared
    {above : List NodeRef} {lineages : List Lineage} {gone : List NodeId}
    (h : Descends above lineages)
    (habove : ∀ node ∈ above, node.id ∉ gone)
    (hmet : ∀ id ∈ gone, id ∉ metIds lineages) :
    lineages.filter (Lineage.spared gone) = lineages := by
  rw [List.filter_eq_self]
  intro lineage hmem
  rw [Lineage.spared_iff]
  intro node hnode hgone
  rcases h.line hmem hnode with hin | hin
  · exact hmet _ hgone hin
  · exact habove node hin hgone

theorem Sprouts.mem_metIds
    {above : List NodeRef} {id : NodeId} {lineages : List Lineage}
    (h : Sprouts above id lineages) :
    id ∈ metIds lineages := by
  obtain ⟨node, below, rfl, rfl, -⟩ := h
  exact List.mem_cons_self

/-- Every lineage of a node goes through it. -/
theorem Sprouts.mem_line
    {above : List NodeRef} {id : NodeId} {lineages : List Lineage} {lineage : Lineage}
    (h : Sprouts above id lineages)
    (hmem : lineage ∈ lineages) :
    ∃ node ∈ lineage.line, node.id = id := by
  obtain ⟨node, below, rfl, rfl, hbelow⟩ := h
  rcases List.mem_cons.mp hmem with rfl | hmem
  · exact ⟨node, List.mem_cons_self, rfl⟩
  · obtain ⟨between, heq, -⟩ := hbelow lineage hmem
    refine ⟨node, List.mem_cons_of_mem _ ?_, rfl⟩
    rw [heq]
    exact List.mem_append_right _ List.mem_cons_self

end Spared

section Prunes

/-- To drop an element is to drop what it shows, when what the others show is kept. -/
theorem flatMap_filter
    {α β : Type} {xs : List α} {view : α → List β} {p : α → Bool} {q : β → Bool}
    (hstay : ∀ x ∈ xs, p x → (view x).filter q = view x)
    (hleave : ∀ x ∈ xs, ¬ p x → (view x).filter q = []) :
    (xs.filter p).flatMap view = (xs.flatMap view).filter q := by
  induction xs with
  | nil =>
      rfl
  | cons x xs ih =>
      have hrest := ih (fun y hy => hstay y (List.mem_cons_of_mem x hy))
        (fun y hy => hleave y (List.mem_cons_of_mem x hy))
      rw [List.flatMap_cons, List.filter_append, ← hrest]
      by_cases hx : p x
      · rw [List.filter_cons_of_pos hx, hstay x List.mem_cons_self hx, List.flatMap_cons]
      · rw [List.filter_cons_of_neg hx, hleave x List.mem_cons_self hx, List.nil_append]

/-- The lineages `after` are those of `before` without a removed node.  The removed nodes are met
below the nodes `above`; ids have to be distinct for an id to tell a node. -/
structure Prunes
    (above : List NodeRef) (gone : List NodeId) (before after : List Lineage) : Prop where
  met : ∀ id ∈ gone, id ∈ metIds before
  spared : (metIds before).Nodup → (∀ node ∈ above, node.id ∉ gone) →
    after = before.filter (Lineage.spared gone)

namespace Prunes

variable {above : List NodeRef} {gone : List NodeId} {before after : List Lineage}

theorem refl (above : List NodeRef) (before : List Lineage) :
    Prunes above [] before before where
  met := fun _ hmem => nomatch hmem
  spared := by
    intro _ _
    symm
    rw [List.filter_eq_self]
    intro lineage _
    exact lineage.spared_nil

/-- Below a node that stays. -/
theorem cons
    {node : NodeRef}
    (h : Prunes (node :: above) gone before after) :
    Prunes above gone (⟨node, above⟩ :: before) (⟨node, above⟩ :: after) where
  met := fun id hid => List.mem_cons_of_mem _ (h.met id hid)
  spared := by
    intro hnodup habove
    rw [metIds_cons, List.nodup_cons] at hnodup
    obtain ⟨hnew, hbefore⟩ := hnodup
    have hline : ∀ n ∈ node :: above, n.id ∉ gone := by
      intro n hn hgone
      rcases List.mem_cons.mp hn with rfl | hn
      · exact hnew (h.met _ hgone)
      · exact habove n hn hgone
    have hkeep : Lineage.spared gone ⟨node, above⟩ := Lineage.spared_iff.mpr hline
    rw [List.filter_cons_of_pos hkeep, h.spared hbefore hline]

/-- Behind lineages that stay. -/
theorem behind
    {front : List Lineage}
    (hfront : Descends above front)
    (h : Prunes above gone before after) :
    Prunes above gone (front ++ before) (front ++ after) where
  met := by
    intro id hid
    rw [metIds_append]
    exact List.mem_append_right _ (h.met id hid)
  spared := by
    intro hnodup habove
    rw [metIds_append, List.nodup_append] at hnodup
    obtain ⟨-, hbefore, hdisjoint⟩ := hnodup
    have hkeep := hfront.filter_spared habove fun id hid hmem =>
      hdisjoint id hmem id (h.met id hid) rfl
    rw [List.filter_append, hkeep, h.spared hbefore habove]

/-- In front of lineages that stay. -/
theorem ahead
    {back : List Lineage}
    (hback : Descends above back)
    (h : Prunes above gone before after) :
    Prunes above gone (before ++ back) (after ++ back) where
  met := by
    intro id hid
    rw [metIds_append]
    exact List.mem_append_left _ (h.met id hid)
  spared := by
    intro hnodup habove
    rw [metIds_append, List.nodup_append] at hnodup
    obtain ⟨hbefore, -, hdisjoint⟩ := hnodup
    have hkeep := hback.filter_spared habove fun id hid hmem =>
      hdisjoint id (h.met id hid) id hmem rfl
    rw [List.filter_append, hkeep, h.spared hbefore habove]

/-- At the node whose children are edited. -/
theorem children
    {α : Type} [Node α] {view : α → List Lineage}
    (hview : ∀ x, Sprouts above (Node.id x) (view x))
    (removal : Removal) (xs : List α) :
    Prunes above (removal.takenIds xs) (xs.flatMap view)
      ((removal.edit.apply xs).flatMap view) where
  met := by
    intro id hid
    obtain ⟨x, hx, rfl⟩ := List.mem_map.mp hid
    rw [metIds, List.map_flatMap]
    exact List.mem_flatMap.mpr ⟨x, removal.taken_subset xs hx, (hview x).mem_metIds⟩
  spared := by
    intro hnodup habove
    rw [metIds, List.map_flatMap, List.nodup_flatMap] at hnodup
    obtain ⟨-, hdisjoint⟩ := hnodup
    have hsymm : Std.Symm
        (Function.onFun List.Disjoint fun x => (view x).map fun lineage => lineage.node.id) :=
      ⟨fun _ _ h => List.disjoint_symm h⟩
    have hids : (xs.map Node.id).Nodup := by
      rw [List.Nodup, List.pairwise_map]
      apply hdisjoint.imp
      intro x y hxy heq
      exact hxy (hview x).mem_metIds (heq ▸ (hview y).mem_metIds)
    rw [removal.apply_eq_filter hids]
    -- A child that stays meets no removed id: siblings meet different ids.
    have hstay : ∀ x ∈ xs, Node.id x ∉ removal.takenIds xs →
        (view x).filter (Lineage.spared (removal.takenIds xs)) = view x := by
      intro x hx hnot
      apply (hview x).descends.filter_spared habove
      intro id hid hmem
      obtain ⟨y, hy, rfl⟩ := List.mem_map.mp hid
      have hne : y ≠ x := by
        rintro rfl
        exact hnot hid
      have hxy := hdisjoint.forall (removal.taken_subset xs hy) hx hne
      exact hxy (hview y).mem_metIds hmem
    have hleave : ∀ x, Node.id x ∈ removal.takenIds xs →
        (view x).filter (Lineage.spared (removal.takenIds xs)) = [] := by
      intro x hgone
      rw [List.filter_eq_nil_iff]
      intro lineage hmem hspared
      obtain ⟨node, hnode, hid⟩ := (hview x).mem_line hmem
      exact Lineage.spared_iff.mp hspared node hnode (hid ▸ hgone)
    apply flatMap_filter
    · intro x hx hnot
      exact hstay x hx (of_decide_eq_true hnot)
    · intro x _ hgone
      exact hleave x (by simpa using hgone)

end Prunes

end Prunes

end Tree
end DocTree
