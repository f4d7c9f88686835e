import DocTree.Proofs.Tree.Removal

/-!
# Filters by kind agree with each other

A kind parts a sequence of children in two: those of the kind, and the others.  There are several
ways to get at the parts, and here they are compared with each other.

**Interleaving.**  `Interleaved taken kept children` says that the children are made of two
sequences, each of them in its order.  The children of a kind and those that are left without them
are interleaved in all the children.

**Emptying.**  `Drains kind children taken rest` is the run in which the first child of a kind is
taken out again and again, until there is none.  One step moves the first child of the kind over and
leaves the other kinds alone (`allOf_removeFirst`, `removeAll_removeFirst`), so the run ends, and it
ends where all children of the kind are taken out at once (`drains_iff`).
-/

namespace DocTree
namespace Tree
namespace Children

section Interleaving

/-- Whether a sequence is made of two others, each of them in its order. -/
inductive Interleaved {α : Type} : List α → List α → List α → Prop
  | nil : Interleaved [] [] []
  | left
      {taken kept children : List α}
      (node : α) :
      Interleaved taken kept children →
      Interleaved (node :: taken) kept (node :: children)
  | right
      {taken kept children : List α}
      (node : α) :
      Interleaved taken kept children →
      Interleaved taken (node :: kept) (node :: children)

theorem interleaved_filter
    {α : Type}
    (p : α → Bool)
    (children : List α) :
    Interleaved (children.filter p) (children.filter fun node => !p node) children := by
  induction children with
  | nil =>
      exact .nil
  | cons node children ih =>
      cases hp : p node with
      | true =>
          rw [List.filter_cons_of_pos hp, List.filter_cons_of_neg (by simp [hp])]
          exact .left node ih
      | false =>
          rw [List.filter_cons_of_neg (by simp [hp]), List.filter_cons_of_pos (by simp [hp])]
          exact .right node ih

end Interleaving

variable {α : Type} [Node α]

section Parts

theorem isKind_iff
    {kind : NodeKind}
    {node : α} :
    isKind kind node = true ↔ Node.kind node = kind :=
  beq_iff_eq

theorem snd_removeAll
    (kind : NodeKind)
    (children : List α) :
    (removeAll kind children).2 = children.filter fun node => !isKind kind node :=
  rfl

theorem mem_allOf_iff
    {kind : NodeKind}
    {children : List α}
    {node : α} :
    node ∈ allOf kind children ↔ node ∈ children ∧ Node.kind node = kind := by
  rw [allOf, List.mem_filter, isKind_iff]

theorem mem_removeAll_iff
    {kind : NodeKind}
    {children : List α}
    {node : α} :
    node ∈ (removeAll kind children).2 ↔ node ∈ children ∧ Node.kind node ≠ kind := by
  rw [snd_removeAll, List.mem_filter, Bool.not_eq_true', ← Bool.not_eq_true, isKind_iff]

theorem firstOf_eq_head?
    (kind : NodeKind)
    (children : List α) :
    firstOf kind children = (allOf kind children).head? :=
  List.head?_filter.symm

/-- Both parts together are as long as the whole. -/
theorem length_parts
    (kind : NodeKind)
    (children : List α) :
    (allOf kind children).length + (removeAll kind children).2.length = children.length :=
  (List.length_eq_length_filter_add (isKind kind)).symm

theorem fst_removeAll
    (kind : NodeKind)
    (children : List α) :
    (removeAll kind children).1 = (allOf kind children).length := by
  have hcount : (removeAll kind children).1 =
      children.length - (removeAll kind children).2.length := by
    rfl
  have hparts := length_parts kind children
  omega

theorem allOf_removeAll_self
    (kind : NodeKind)
    (children : List α) :
    allOf kind (removeAll kind children).2 = [] := by
  apply List.eq_nil_iff_forall_not_mem.mpr
  intro node hnode
  obtain ⟨hrest, hkind⟩ := mem_allOf_iff.mp hnode
  exact (mem_removeAll_iff.mp hrest).2 hkind

/-- Taking out one kind leaves the children of any other kind alone. -/
theorem allOf_removeAll_of_ne
    {kind other : NodeKind}
    (h : other ≠ kind)
    (children : List α) :
    allOf other (removeAll kind children).2 = allOf other children := by
  rw [allOf, snd_removeAll, List.filter_filter, allOf]
  apply List.filter_congr
  intro node _
  cases hother : isKind other node with
  | false =>
      rfl
  | true =>
      have hkind : isKind kind node = false := by
        rw [← Bool.not_eq_true, isKind_iff, isKind_iff.mp hother]
        exact h
      rw [hkind]
      rfl

theorem removeAll_comm
    (kind other : NodeKind)
    (children : List α) :
    (removeAll other (removeAll kind children).2).2 =
      (removeAll kind (removeAll other children).2).2 :=
  List.filter_comm ..

end Parts

section Emptying

theorem removeFirst_of_none
    {kind : NodeKind}
    {children : List α}
    (h : firstOf kind children = none) :
    removeFirst kind children = (none, children) := by
  rw [removeFirst_eq, ← firstOf, h, List.eraseP_of_forall_not (List.find?_eq_none.mp h)]

/-- The first child of a kind is taken out of its place, and what stands around it stays. -/
theorem removeFirst_of_some
    {kind : NodeKind}
    {children : List α}
    {node : α}
    (h : firstOf kind children = some node) :
    ∃ front behind,
      children = front ++ node :: behind ∧
      (∀ earlier ∈ front, Node.kind earlier ≠ kind) ∧
      Node.kind node = kind ∧
      removeFirst kind children = (some node, front ++ behind) := by
  obtain ⟨hkind, front, behind, rfl, hfront⟩ := List.find?_eq_some_iff_append.mp h
  have hother : ∀ earlier ∈ front, ¬ isKind kind earlier = true := by
    intro earlier hearlier
    simpa using hfront earlier hearlier
  refine ⟨front, behind, rfl, ?_, isKind_iff.mp hkind, ?_⟩
  · intro earlier hearlier
    exact fun hsame => hother earlier hearlier (isKind_iff.mpr hsame)
  · rw [removeFirst_eq, ← firstOf, h, List.eraseP_append_right _ hother,
      List.eraseP_cons_of_pos hkind]

theorem fst_removeFirst
    (kind : NodeKind)
    (children : List α) :
    (removeFirst kind children).1 = firstOf kind children := by
  rw [removeFirst_eq]
  rfl

/-- What a step takes out and what it leaves of a kind are all the children of the kind. -/
theorem allOf_removeFirst
    (kind : NodeKind)
    (children : List α) :
    (removeFirst kind children).1.toList ++ allOf kind (removeFirst kind children).2 =
      allOf kind children := by
  cases hfirst : firstOf kind children with
  | none =>
      rw [removeFirst_of_none hfirst]
      rfl
  | some node =>
      obtain ⟨front, behind, rfl, hfront, hkind, hremoved⟩ := removeFirst_of_some hfirst
      have hnone : front.filter (isKind kind) = [] :=
        List.filter_eq_nil_iff.mpr fun earlier hearlier hsame =>
          hfront earlier hearlier (isKind_iff.mp hsame)
      rw [hremoved, allOf, allOf, List.filter_append, List.filter_append, hnone,
        List.filter_cons_of_pos (isKind_iff.mpr hkind)]
      rfl

/-- A step leaves the other kinds alone. -/
theorem removeAll_removeFirst
    (kind : NodeKind)
    (children : List α) :
    (removeAll kind (removeFirst kind children).2).2 = (removeAll kind children).2 := by
  cases hfirst : firstOf kind children with
  | none =>
      rw [removeFirst_of_none hfirst]
  | some node =>
      obtain ⟨front, behind, rfl, _, hkind, hremoved⟩ := removeFirst_of_some hfirst
      have htaken : ((node :: behind).filter fun other => !isKind kind other) =
          behind.filter fun other => !isKind kind other :=
        List.filter_cons_of_neg (by simp [isKind_iff.mpr hkind])
      rw [hremoved, snd_removeAll, snd_removeAll, List.filter_append, List.filter_append, htaken]

/-- The run in which the first child of a kind is taken out until there is none: what is taken out
of some children one after the other, and what is left of them. -/
inductive Drains (kind : NodeKind) : List α → List α → List α → Prop
  | stop
      {children rest : List α} :
      removeFirst kind children = (none, rest) →
      Drains kind children [] rest
  | step
      {children fewer taken rest : List α}
      {node : α} :
      removeFirst kind children = (some node, fewer) →
      Drains kind fewer taken rest →
      Drains kind children (node :: taken) rest

/-- Where no child of a kind is left, nothing is taken out. -/
theorem parts_of_none
    {kind : NodeKind}
    {children : List α}
    (h : firstOf kind children = none) :
    allOf kind children = [] ∧ (removeAll kind children).2 = children := by
  have hnone := List.find?_eq_none.mp h
  constructor
  · exact List.filter_eq_nil_iff.mpr hnone
  · apply List.filter_eq_self.mpr
    intro node hnode
    simpa using hnone node hnode

theorem Drains.parts
    {kind : NodeKind}
    {children taken rest : List α}
    (h : Drains kind children taken rest) :
    taken = allOf kind children ∧ rest = (removeAll kind children).2 := by
  induction h with
  | @stop children rest hstop =>
      have hfirst := fst_removeFirst kind children
      rw [hstop] at hfirst
      obtain ⟨hall, hrest⟩ := parts_of_none hfirst.symm
      rw [removeFirst_of_none hfirst.symm] at hstop
      obtain ⟨_, rfl⟩ := Prod.mk.inj hstop
      exact ⟨hall.symm, hrest.symm⟩
  | @step children fewer taken rest node hstep _ ih =>
      have hall := allOf_removeFirst kind children
      have hrest := removeAll_removeFirst kind children
      rw [hstep] at hall hrest
      obtain ⟨rfl, rfl⟩ := ih
      exact ⟨hall, hrest⟩

/-- There is a run from any children on, which is as long as there are children of the kind. -/
theorem drains_parts
    (kind : NodeKind)
    (children : List α) :
    Drains kind children (allOf kind children) (removeAll kind children).2 := by
  generalize hall : allOf kind children = taken
  induction taken generalizing children with
  | nil =>
      have hfirst : firstOf kind children = none := by
        rw [firstOf_eq_head?, hall]
        rfl
      rw [(parts_of_none hfirst).2]
      exact .stop (removeFirst_of_none hfirst)
  | cons node taken ih =>
      have hfirst : (removeFirst kind children).1 = some node := by
        rw [fst_removeFirst, firstOf_eq_head?, hall]
        rfl
      have hfewer := allOf_removeFirst kind children
      rw [hfirst, hall] at hfewer
      have hrun := ih (removeFirst kind children).2 (List.cons.inj hfewer).2
      rw [removeAll_removeFirst] at hrun
      exact .step (Prod.ext hfirst rfl) hrun

/-- A run takes out all children of the kind, in their order, and leaves the others. -/
theorem drains_iff
    {kind : NodeKind}
    {children taken rest : List α} :
    Drains kind children taken rest ↔
      taken = allOf kind children ∧ rest = (removeAll kind children).2 := by
  constructor
  · exact Drains.parts
  · rintro ⟨rfl, rfl⟩
    exact drains_parts kind children

end Emptying

section Agreement

/-- What the filters by a kind have to do with each other on some children. -/
structure FiltersAgree (kind : NodeKind) (children : List α) : Prop where
  /-- The children of the kind, and no others, are listed. -/
  listed : ∀ node, node ∈ allOf kind children ↔ node ∈ children ∧ Node.kind node = kind
  first : firstOf kind children = (allOf kind children).head?
  removedFirst : (removeFirst kind children).1 = firstOf kind children
  untouched : firstOf kind children = none → (removeFirst kind children).2 = children
  /-- Nothing but the first child of the kind is gone. -/
  onlyFirst : ∀ node, firstOf kind children = some node →
    ∃ front behind,
      children = front ++ node :: behind ∧
      (∀ earlier ∈ front, Node.kind earlier ≠ kind) ∧
      (removeFirst kind children).2 = front ++ behind
  /-- Taking out the first child of the kind again and again ends where all of them are taken out
  at once. -/
  drained : ∀ taken rest, Drains kind children taken rest ↔
    taken = allOf kind children ∧ rest = (removeAll kind children).2
  steps : ∀ taken rest, Drains kind children taken rest →
    taken.length = (removeAll kind children).1
  count : (removeAll kind children).1 = (allOf kind children).length
  shrunk : (removeAll kind children).2.length + (removeAll kind children).1 = children.length
  gone : allOf kind (removeAll kind children).2 = []
  others : ∀ other, other ≠ kind → allOf other (removeAll kind children).2 = allOf other children
  othersCount : ∀ other, other ≠ kind →
    (removeAll other (removeAll kind children).2).1 = (removeAll other children).1
  interleaved : Interleaved (allOf kind children) (removeAll kind children).2 children
  commuted : ∀ other,
    (removeAll other (removeAll kind children).2).2 =
      (removeAll kind (removeAll other children).2).2

/-- **Filters.**  On any sequence of children the filters by a kind agree: the first child of the
kind is the head of all of them, it is the one that is taken out first, and taking out the first
until there is none is the same as taking out all.  That leaves the other kinds alone, in whichever
order kinds are taken out, and the children are an interleaving of what is taken out and what is
left. -/
theorem filters_agree (kind : NodeKind) (children : List α) :
    FiltersAgree kind children where
  listed := fun _ => mem_allOf_iff
  first := firstOf_eq_head? kind children
  removedFirst := fst_removeFirst kind children
  untouched := fun hfirst => congrArg Prod.snd (removeFirst_of_none hfirst)
  onlyFirst := by
    intro node hfirst
    obtain ⟨front, behind, hsplit, hfront, _, hremoved⟩ := removeFirst_of_some hfirst
    exact ⟨front, behind, hsplit, hfront, congrArg Prod.snd hremoved⟩
  drained := fun _ _ => drains_iff
  steps := by
    intro taken rest hrun
    rw [fst_removeAll, hrun.parts.1]
  count := fst_removeAll kind children
  shrunk := by
    rw [fst_removeAll, Nat.add_comm]
    exact length_parts kind children
  gone := allOf_removeAll_self kind children
  others := fun _ hother => allOf_removeAll_of_ne hother children
  othersCount := by
    intro other hother
    rw [fst_removeAll, fst_removeAll, allOf_removeAll_of_ne hother]
  interleaved := interleaved_filter (isKind kind) children
  commuted := fun other => removeAll_comm kind other children

end Agreement

end Children
end Tree
end DocTree
