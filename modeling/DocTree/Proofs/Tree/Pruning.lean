import DocTree.Proofs.Tree.Addressing
import DocTree.Proofs.Tree.Removal

/-!
# A removal at an address prunes the tree

A removal at an address succeeds exactly when a node with children is there, and then prunes the
lineages of the tree by the children that it takes out (`Root.follows`).  The proof goes down the
address: each kind of container is one case, in which the siblings off the path are left alone.

What has more than one role in a tree, as a list or a paragraph has, is treated once, with the label
that it has in its role as a parameter.
-/

namespace DocTree
namespace Tree

section Taken

/-- The ids of the nodes that a removal at a node takes out of the walk; absent when the node has no
children. -/
def Focus.taken? (removal : Removal) (focus : Focus) : Option (List NodeId) :=
  focus.children?.map fun children =>
    if focus.table?.isSome then [] else removal.takenIds children

def Focus.takenAt? (removal : Removal) (focus : Focus) (address : List Step) :
    Option (List NodeId) :=
  (focus.below? address).bind (Focus.taken? removal)

/-- The ids of the nodes that a removal at an address takes out of the walk. -/
def Root.takenAt? (removal : Removal) (root : Root) (address : List Step) :
    Option (List NodeId) :=
  (root.focus? address).bind (Focus.taken? removal)

variable (removal : Removal)

@[simp] theorem Focus.takenAt?_nil (focus : Focus) :
    focus.takenAt? removal [] = focus.taken? removal := by
  rfl

theorem Focus.takenAt?_cons (focus : Focus) (step : Step) (address : List Step) :
    focus.takenAt? removal (step :: address) =
      (focus.step? step).bind fun next => next.takenAt? removal address := by
  rw [Focus.takenAt?, Focus.below?_cons, Option.bind_assoc]
  rfl

/-- One step down to a child that is shown as a focus by a map of its own. -/
theorem Focus.takenAt?_child
    {α : Type} {children : List α} {view : α → Focus} {focus : Focus}
    (hchildren : focus.children? = some (children.map view))
    (index : Nat) (address : List Step) :
    focus.takenAt? removal (.child index :: address) =
      (children[index]?).bind fun child => (view child).takenAt? removal address := by
  rw [Focus.takenAt?_cons, Focus.step?_child hchildren, Option.bind_map]
  rfl

/-- A removal at a node whose children are met on the walk. -/
theorem Focus.taken?_eq
    {α : Type} [Node α] {children : List α} {view : α → Focus} {focus : Focus}
    (hchildren : focus.children? = some (children.map view))
    (htable : focus.table? = none)
    (hid : ∀ child, Node.id (view child) = Node.id child)
    (hkind : ∀ child, Node.kind (view child) = Node.kind child) :
    focus.taken? removal = some (removal.takenIds children) := by
  simp only [Focus.taken?, hchildren, htable, Option.map_some, Option.isSome_none,
    Bool.false_eq_true, if_false, removal.takenIds_map view hid hkind]

/-- Nodes without children hold no node to edit. -/
theorem Focus.takenAt?_leaf
    {focus : Focus}
    (hchildren : focus.children? = none)
    (hstep : ∀ step, focus.step? step = none)
    (address : List Step) :
    focus.takenAt? removal address = none := by
  cases address with
  | nil =>
      rw [Focus.takenAt?_nil, Focus.taken?, hchildren, Option.map_none]
  | cons step address =>
      rw [Focus.takenAt?_cons, hstep, Option.bind_none]

theorem Focus.takenAt?_inline (i : Inline) (address : List Step) :
    (Focus.inline i).takenAt? removal address = none := by
  apply Focus.takenAt?_leaf
  · rfl
  · rintro (_ | _ | _) <;> rfl

theorem Focus.takenAt?_cell (p : Paragraph) (address : List Step) :
    (Focus.cell p).takenAt? removal address = none := by
  apply Focus.takenAt?_leaf
  · rfl
  · rintro (_ | _ | _) <;> rfl

end Taken

section Follows

/-- The outcome of a removal fits what it takes out: both are absent, or the lineages are pruned. -/
def Follows
    (above : List NodeRef) (taken : Option (List NodeId)) (before : List Lineage)
    (after : Option (List Lineage)) : Prop :=
  Option.Rel (fun gone lineages => Prunes above gone before lineages) taken after

namespace Follows

variable {above : List NodeRef} {taken : Option (List NodeId)}
variable {before : List Lineage} {after : Option (List Lineage)}

theorem absent (above : List NodeRef) (before : List Lineage) :
    Follows above none before none :=
  Option.Rel.none

theorem present
    {gone : List NodeId} {lineages : List Lineage}
    (h : Prunes above gone before lineages) :
    Follows above (some gone) before (some lineages) :=
  Option.Rel.some h

theorem cons
    {node : NodeRef}
    (h : Follows (node :: above) taken before after) :
    Follows above taken (⟨node, above⟩ :: before) (after.map fun xs => ⟨node, above⟩ :: xs) := by
  cases h with
  | none =>
      exact absent above _
  | some h =>
      exact present h.cons

theorem behind
    {front : List Lineage}
    (hfront : Descends above front)
    (h : Follows above taken before after) :
    Follows above taken (front ++ before) (after.map fun xs => front ++ xs) := by
  cases h with
  | none =>
      exact absent above _
  | some h =>
      exact present (h.behind hfront)

theorem ahead
    {back : List Lineage}
    (hback : Descends above back)
    (h : Follows above taken before after) :
    Follows above taken (before ++ back) (after.map fun xs => xs ++ back) := by
  cases h with
  | none =>
      exact absent above _
  | some h =>
      exact present (h.ahead hback)

/-- Below one of several siblings. -/
theorem replaceAt
    {α : Type} {view : α → List Lineage} {edit : α → Option α}
    {takenOf : α → Option (List NodeId)}
    (xs : List α)
    (hdescends : ∀ x, Descends above (view x))
    (hedit : ∀ x ∈ xs, Follows above (takenOf x) (view x) ((edit x).map view))
    (index : Nat) :
    Follows above ((xs[index]?).bind takenOf) (xs.flatMap view)
      ((replaceAt? xs index edit).map fun ys => ys.flatMap view) := by
  rw [replaceAt?]
  cases hx : xs[index]? with
  | none =>
      exact absent above _
  | some x =>
      obtain ⟨hlt, rfl⟩ := List.getElem?_eq_some_iff.mp hx
      have hbefore : xs.flatMap view =
          (xs.take index).flatMap view ++
            (view xs[index] ++ (xs.drop (index + 1)).flatMap view) := by
        rw [← List.flatMap_cons, ← List.drop_eq_getElem_cons hlt, ← List.flatMap_append,
          List.take_append_drop]
      have hafter : ∀ y, (xs.set index y).flatMap view =
          (xs.take index).flatMap view ++ (view y ++ (xs.drop (index + 1)).flatMap view) := by
        intro y
        rw [List.set_eq_take_append_cons_drop, if_pos hlt, List.flatMap_append,
          List.flatMap_cons]
      have hbeside := ((hedit _ (List.getElem_mem hlt)).ahead
        (Descends.flatMap fun y (_ : y ∈ xs.drop (index + 1)) => hdescends y)).behind
        (Descends.flatMap fun y (_ : y ∈ xs.take index) => hdescends y)
      rw [hbefore]
      simp only [Option.bind_some, Option.map_map, Function.comp_def, hafter] at hbeside ⊢
      exact hbeside

theorem isSome (h : Follows above taken before after) :
    taken.isSome = after.isSome := by
  cases h <;> rfl

theorem exists_prunes
    {lineages : List Lineage}
    (h : Follows above taken before (some lineages)) :
    ∃ gone, taken = some gone ∧ Prunes above gone before lineages := by
  cases h with
  | some h =>
      exact ⟨_, rfl, h⟩

end Follows

end Follows

section Containers

variable (removal : Removal)

theorem Focus.takenAt?_paragraph_cons (p : Paragraph) (step : Step) (address : List Step) :
    (Focus.paragraph p).takenAt? removal (step :: address) = none := by
  cases step with
  | child index =>
      rw [Focus.takenAt?_child removal rfl]
      cases p.children[index]? with
      | none =>
          rfl
      | some i =>
          exact Focus.takenAt?_inline removal i address
  | header index =>
      rfl
  | paragraph =>
      rfl

theorem Paragraph.edit?_some
    {edit : Edit} {address : List Step} {p q : Paragraph}
    (h : p.edit? edit address = some q) :
    ∃ children, q = { p with children := children } := by
  cases address with
  | nil =>
      exact ⟨edit.apply p.children, (Option.some.inj h).symm⟩
  | cons step address =>
      cases h

/-- A paragraph in the role that a label tells, and what lies below it. -/
def Paragraph.labelled
    (label : Paragraph → NodeRef) (above : List NodeRef) (p : Paragraph) : List Lineage :=
  ⟨label p, above⟩ :: p.inlineLineages (label p :: above)

theorem Paragraph.follows
    (label : Paragraph → NodeRef)
    (hlabel : ∀ p children, label { p with children := children } = label p)
    (above : List NodeRef) (address : List Step) (p : Paragraph) :
    Follows above ((Focus.paragraph p).takenAt? removal address) (p.labelled label above)
      ((p.edit? removal.edit address).map (Paragraph.labelled label above)) := by
  cases address with
  | nil =>
      have hchildren : (Focus.paragraph p).children? = some (p.children.map Focus.inline) := rfl
      have htaken := Focus.taken?_eq removal hchildren rfl (fun _ => rfl) (fun _ => rfl)
      rw [Focus.takenAt?_nil, htaken, Paragraph.edit?, Option.map_some, Paragraph.labelled,
        Paragraph.labelled, hlabel p (removal.edit.apply p.children)]
      exact Follows.present (Prunes.children (Inline.sprouts _) removal p.children).cons
  | cons step address =>
      rw [Focus.takenAt?_paragraph_cons]
      exact Follows.absent above _

/-- Roles that differ in the label only are edited alike. -/
theorem Focus.takenAt?_congr
    {focus focus' : Focus}
    (hhere : focus.taken? removal = focus'.taken? removal)
    (hstep : ∀ step, focus.step? step = focus'.step? step)
    (address : List Step) :
    focus.takenAt? removal address = focus'.takenAt? removal address := by
  cases address with
  | nil =>
      exact hhere
  | cons step address =>
      rw [Focus.takenAt?_cons, Focus.takenAt?_cons, hstep]

theorem Focus.takenAt?_block_paragraph (p : Paragraph) (address : List Step) :
    (Focus.block (.paragraph p)).takenAt? removal address =
      (Focus.paragraph p).takenAt? removal address := by
  refine Focus.takenAt?_congr removal ?_ ?_ address
  · rfl
  · rintro (_ | _ | _) <;> rfl

theorem Focus.takenAt?_block_list (l : ListNode) (address : List Step) :
    (Focus.block (.list l)).takenAt? removal address =
      (Focus.sublist l).takenAt? removal address := by
  refine Focus.takenAt?_congr removal ?_ ?_ address
  · rfl
  · rintro (_ | _ | _) <;> rfl

theorem Focus.takenAt?_entry_sublist (l : ListNode) (address : List Step) :
    (Focus.entry (.sublist l)).takenAt? removal address =
      (Focus.sublist l).takenAt? removal address := by
  refine Focus.takenAt?_congr removal ?_ ?_ address
  · rfl
  · rintro (_ | _ | _) <;> rfl

/-- A list in the role that a label tells, and what lies below it. -/
def ListNode.labelled
    (label : ListNode → NodeRef) (above : List NodeRef) (l : ListNode) : List Lineage :=
  ⟨label l, above⟩ :: l.lineagesBelow (label l :: above)

theorem ListNode.labelled_mk
    {label : ListNode → NodeRef}
    (hlabel : ∀ l entries, label (.mk l.id l.type l.depth entries) = label l)
    (above : List NodeRef) (l : ListNode) (entries : List ListEntry) :
    ListNode.labelled label above (.mk l.id l.type l.depth entries) =
      ⟨label l, above⟩ :: entries.flatMap (ListEntry.lineages (label l :: above)) := by
  rw [ListNode.labelled, hlabel, ListNode.lineagesBelow, ListEntry.lineagesAll_eq]

-- An entry that is a list is edited at the address of the entry, so the address does not always get
-- shorter; the second component of the measure lets an entry go to its list.
mutual

theorem ListNode.follows
    (label : ListNode → NodeRef)
    (hlabel : ∀ l entries, label (.mk l.id l.type l.depth entries) = label l)
    (above : List NodeRef) :
    (address : List Step) → (l : ListNode) →
      Follows above ((Focus.sublist l).takenAt? removal address) (l.labelled label above)
        ((l.edit? removal.edit address).map (ListNode.labelled label above))
  | address, .mk id type depth entries => by
      have hmk := ListNode.labelled_mk hlabel above (.mk id type depth entries)
      have hbefore := hmk entries
      -- The label is that of the list before and after, so nothing but its name matters below.
      generalize label (.mk id type depth entries) = node at hmk hbefore
      simp only [ListNode.id, ListNode.type, ListNode.depth] at hmk hbefore
      rw [hbefore]
      match address with
      | [] =>
          have hchildren : (Focus.sublist (.mk id type depth entries)).children? =
              some (entries.map Focus.entry) := rfl
          have htaken := Focus.taken?_eq removal hchildren rfl (fun _ => rfl) (fun _ => rfl)
          rw [Focus.takenAt?_nil, htaken, ListNode.edit?, Option.map_some, hmk]
          exact Follows.present (Prunes.children (ListEntry.sprouts _) removal entries).cons
      | .child index :: address =>
          have hentries := Follows.replaceAt entries
            (fun entry => (ListEntry.sprouts (node :: above) entry).descends)
            (fun entry _ => ListEntry.follows (node :: above) address entry) index
          have hlist := hentries.cons
          rw [Focus.takenAt?_child removal rfl, ListNode.edit?]
          simp only [Option.map_map, Function.comp_def, hmk] at hlist ⊢
          exact hlist
      | .header _ :: address =>
          simp only [ListNode.edit?]
          exact Follows.absent above _
      | .paragraph :: address =>
          simp only [ListNode.edit?]
          exact Follows.absent above _
termination_by address _ => (address.length, 0)

theorem ListEntry.follows (above : List NodeRef) :
    (address : List Step) → (entry : ListEntry) →
      Follows above ((Focus.entry entry).takenAt? removal address) (entry.lineages above)
        ((entry.edit? removal.edit address).map (ListEntry.lineages above))
  | address, .sublist l => by
      have hlist := ListNode.follows (fun l => (NodeRef.list l).bare)
        (fun _ _ => rfl) above address l
      rw [Focus.takenAt?_entry_sublist, ListEntry.edit?, ListEntry.lineages, Option.map_map]
      exact hlist
  | [], .item id p lists => by
      have hchildren : (Focus.entry (.item id p lists)).children? =
          some (lists.map Focus.sublist) := rfl
      have htaken := Focus.taken?_eq removal hchildren rfl (fun _ => rfl) (fun _ => rfl)
      have hlists := Prunes.children
        (ListNode.sprouts ((NodeRef.item id p lists).bare :: above)) removal lists
      rw [Focus.takenAt?_nil, htaken, ListEntry.edit?, Option.map_some]
      simp only [ListEntry.lineages, ListNode.lineagesAll_eq]
      exact Follows.present (hlists.behind (p.descends _)).cons
  | .child index :: address, .item id p lists => by
      have hlists := Follows.replaceAt lists
        (fun l => (ListNode.sprouts ((NodeRef.item id p lists).bare :: above) l).descends)
        (fun l _ => ListNode.follows (fun l => (NodeRef.list l).bare)
          (fun _ _ => rfl) _ address l) index
      have hitem := (hlists.behind (p.descends _)).cons
      rw [Focus.takenAt?_child removal rfl, ListEntry.edit?]
      simp only [Option.map_map, Function.comp_def, ListEntry.lineages,
        ListNode.lineagesAll_eq] at hitem ⊢
      exact hitem
  | .header index :: address, .item id p lists => by
      rw [ListEntry.edit?]
      exact Follows.absent above _
  | .paragraph :: address, .item id p lists => by
      have hparagraph := Paragraph.follows removal (fun p => (NodeRef.paragraph p).bare)
        (fun _ _ => rfl) ((NodeRef.item id p lists).bare :: above) address p
      have hitem := (hparagraph.ahead (ListNode.descends_all _ lists)).cons
      rw [ListEntry.edit?]
      cases hedit : p.edit? removal.edit address with
      | none =>
          rw [hedit] at hitem
          exact hitem
      | some q =>
          -- The label of the item holds the id of its paragraph, which is kept.
          obtain ⟨children, rfl⟩ := Paragraph.edit?_some hedit
          rw [hedit] at hitem
          exact hitem
termination_by address _ => (address.length, 1)

end

/-- A removal among the flat cells takes nothing out of the walk. -/
theorem Table.follows
    (above : List NodeRef) (address : List Step) (t : Table) :
    Follows above ((Focus.block (.table t)).takenAt? removal address)
      (Block.lineages above (.table t))
      ((t.edit? removal.edit address).map fun t' => Block.lineages above (.table t')) := by
  match address with
  | [] =>
      exact Follows.present (Prunes.refl above _)
  | .header index :: address =>
      have hheaders := Follows.replaceAt t.headers
        (fun p => Paragraph.descends ((NodeRef.block (.table t)).bare :: above) p)
        (fun p _ => Paragraph.follows removal (fun p => (NodeRef.paragraph p).bare)
          (fun _ _ => rfl) _ address p) index
      have htable := (hheaders.ahead (descends_paragraphs _ t.body.flatten)).cons
      rw [Focus.takenAt?_cons, Table.edit?]
      simp only [Focus.step?, Focus.table?, Option.bind_some, Option.bind_map]
      simp only [Option.map_map, Function.comp_def] at htable ⊢
      exact htable
  | .child index :: address =>
      have hchildren : (Focus.block (.table t)).children? = some (t.cells.map Focus.cell) := rfl
      rw [Focus.takenAt?_child removal hchildren]
      cases t.cells[index]? with
      | none =>
          exact Follows.absent above _
      | some p =>
          rw [Option.bind_some, Focus.takenAt?_cell]
          exact Follows.absent above _
  | .paragraph :: address =>
      exact Follows.absent above _

theorem Block.follows (above : List NodeRef) :
    (address : List Step) → (b : Block) →
      Follows above ((Focus.block b).takenAt? removal address) (b.lineages above)
        ((b.edit? removal.edit address).map (Block.lineages above))
  | address, .paragraph p => by
      have hparagraph := Paragraph.follows removal
        (fun p => (NodeRef.block (.paragraph p)).bare) (fun _ _ => rfl) above address p
      rw [Focus.takenAt?_block_paragraph, Block.edit?, Option.map_map]
      exact hparagraph
  | address, .list l => by
      have hlist := ListNode.follows removal
        (fun l => (NodeRef.block (.list l)).bare) (fun _ _ => rfl) above address l
      rw [Focus.takenAt?_block_list, Block.edit?, Option.map_map]
      exact hlist
  | address, .table t => by
      have htable := Table.follows removal above address t
      rw [Block.edit?, Option.map_map]
      exact htable
  | address, .heading id level text => by
      have hstep : ∀ step, (Focus.block (.heading id level text)).step? step = none := by
        rintro (_ | _ | _) <;> rfl
      rw [Focus.takenAt?_leaf removal rfl hstep]
      cases address <;> exact Follows.absent above _
  | address, .codeBlock id language code => by
      have hstep : ∀ step, (Focus.block (.codeBlock id language code)).step? step = none := by
        rintro (_ | _ | _) <;> rfl
      rw [Focus.takenAt?_leaf removal rfl hstep]
      cases address <;> exact Follows.absent above _
  | [], .blockQuote id bs => by
      have hchildren : (Focus.block (.blockQuote id bs)).children? =
          some (bs.map Focus.block) := rfl
      have htaken := Focus.taken?_eq removal hchildren rfl (fun _ => rfl) (fun _ => rfl)
      have hblocks := Prunes.children
        (Block.sprouts ((NodeRef.block (.blockQuote id bs)).bare :: above)) removal bs
      rw [Focus.takenAt?_nil, htaken, Block.edit?, Option.map_some]
      simp only [Block.lineages, Block.lineagesBelow, Block.lineagesAll_eq]
      exact Follows.present hblocks.cons
  | .child index :: address, .blockQuote id bs => by
      have hblocks := Follows.replaceAt bs
        (fun b => (Block.sprouts ((NodeRef.block (.blockQuote id bs)).bare :: above) b).descends)
        (fun b _ => Block.follows _ address b) index
      have hquote := hblocks.cons
      rw [Focus.takenAt?_child removal rfl, Block.edit?, Block.lineages]
      simp only [Option.map_map, Function.comp_def, Block.lineages, Block.lineagesBelow,
        Block.lineagesAll_eq] at hquote ⊢
      exact hquote
  | .header _ :: address, .blockQuote id bs => by
      exact Follows.absent above _
  | .paragraph :: address, .blockQuote id bs => by
      exact Follows.absent above _

/-- A removal succeeds where a node with children is, and prunes the lineages of the tree. -/
theorem Root.follows (address : List Step) (root : Root) :
    Follows [] (root.takenAt? removal address) root.lineages
      ((root.edit? removal.edit address).map Root.lineages) := by
  have hchildren : (Focus.root root).children? = some (root.children.map Focus.block) := rfl
  match address with
  | [] =>
      have htaken := Focus.taken?_eq removal hchildren rfl (fun _ => rfl) (fun _ => rfl)
      have hblocks := Prunes.children
        (Block.sprouts [(NodeRef.root root).bare]) removal root.children
      have hroot : root.takenAt? removal [] = some (removal.takenIds root.children) := htaken
      rw [hroot, Root.edit?, Option.map_some]
      simp only [Root.lineages, Block.lineagesAll_eq]
      exact Follows.present hblocks.cons
  | .child index :: address =>
      have hblocks := Follows.replaceAt root.children
        (fun b => (Block.sprouts [(NodeRef.root root).bare] b).descends)
        (fun b _ => Block.follows removal _ address b) index
      have hroot := hblocks.cons
      have htaken := Focus.takenAt?_child removal hchildren index address
      have hstep : root.takenAt? removal (.child index :: address) = _ := htaken
      rw [hstep, Root.edit?]
      simp only [Option.map_map, Function.comp_def, Root.lineages, Block.lineagesAll_eq]
        at hroot ⊢
      exact hroot
  | .header _ :: address =>
      exact Follows.absent [] _
  | .paragraph :: address =>
      exact Follows.absent [] _

end Containers

end Tree
end DocTree
