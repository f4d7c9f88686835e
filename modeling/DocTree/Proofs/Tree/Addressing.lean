import DocTree.Tree.Address
import Mathlib.Data.List.Basic

/-!
# What addresses reach

Every node that a walk meets has an address, unless it is a cell in the body of a table or an inline
of such a cell (`Root.reaches`).  Block quotes are the only blocks with blocks below them, so an
address of a block goes down block quotes (`Focus.step?_outer`, `Focus.outer_of_below?`).
-/

namespace DocTree
namespace Tree

section Below

/-- The node at an address below a node. -/
def Focus.below? (focus : Focus) (address : List Step) : Option Focus :=
  address.foldlM Focus.step? focus

theorem Focus.below?_cons (focus : Focus) (step : Step) (address : List Step) :
    focus.below? (step :: address) =
      (focus.step? step).bind fun next => next.below? address := by
  rw [Focus.below?, List.foldlM_cons]
  rfl

theorem Root.focus?_eq (root : Root) (address : List Step) :
    root.focus? address = (Focus.root root).below? address := by
  rfl

/-- One step down to a child, where the children are shown as foci by a map of their own. -/
theorem Focus.step?_child
    {α : Type} {children : List α} {view : α → Focus} {focus : Focus}
    (hchildren : focus.children? = some (children.map view))
    (index : Nat) :
    focus.step? (.child index) = (children[index]?).map view := by
  rw [Focus.step?, hchildren, Option.bind_some, List.getElem?_map]

end Below

section Outer

/-- Whether a node is the root or stands in the role of a block. -/
def Focus.outer : Focus → Bool
  | .root _ => true
  | .block _ => true
  | _ => false

/-- A step that stays among the blocks goes from the root or from a block quote to a child. -/
theorem Focus.step?_outer
    {focus next : Focus} {step : Step}
    (h : focus.step? step = some next)
    (hnext : next.outer) :
    ∃ index bs b, step = .child index ∧ bs[index]? = some b ∧ next = .block b ∧
      ((∃ id, focus = .block (.blockQuote id bs)) ∨ ∃ id, focus = .root ⟨id, bs⟩) := by
  cases step with
  | child index =>
      obtain ⟨children, hchildren, hchild⟩ := Option.bind_eq_some_iff.mp h
      unfold Focus.children? at hchildren
      split at hchildren <;> cases hchildren
      all_goals
        rw [List.getElem?_map] at hchild
        obtain ⟨x, hx, rfl⟩ := Option.map_eq_some_iff.mp hchild
        cases hnext
      · exact ⟨index, _, x, rfl, hx, rfl, Or.inr ⟨_, rfl⟩⟩
      · exact ⟨index, _, x, rfl, hx, rfl, Or.inl ⟨_, rfl⟩⟩
  | header index =>
      obtain ⟨t, -, hheader⟩ := Option.bind_eq_some_iff.mp h
      obtain ⟨p, -, rfl⟩ := Option.map_eq_some_iff.mp hheader
      cases hnext
  | paragraph =>
      rcases focus with _ | _ | _ | (_ | _) | _ | _ | _ <;> cases h
      cases hnext

/-- What stands below other nodes than blocks is no block. -/
theorem Focus.outer_of_below?
    {focus last : Focus} {address : List Step}
    (h : focus.below? address = some last)
    (hlast : last.outer) :
    focus.outer := by
  induction address generalizing focus with
  | nil =>
      cases h
      exact hlast
  | cons step address ih =>
      rw [Focus.below?_cons] at h
      obtain ⟨next, hnext, hrest⟩ := Option.bind_eq_some_iff.mp h
      obtain ⟨index, bs, b, -, -, -, ⟨id, rfl⟩ | ⟨id, rfl⟩⟩ := Focus.step?_outer hnext (ih hrest)
      · rfl
      · rfl

end Outer

section Reaches

/-- A node at an address as the walk meets it. -/
def Focus.node : Focus → NodeRef
  | .root r => .root r
  | .block b => .block b
  | .inline i => .inline i
  | .entry (.item id p lists) => .item id p lists
  | .entry (.sublist l) => .list l
  | .sublist l => .list l
  | .paragraph p => .paragraph p
  | .cell p => .paragraph p

/-- Whether a node has an address below a node, or stands in the body of a table that has one. -/
def Focus.Reaches (focus : Focus) (node : NodeRef) : Prop :=
  ∃ address last, focus.below? address = some last ∧
    (last.node = node ∨
      ∃ table, last = .block (.table table) ∧
        node ∈ table.body.flatten.flatMap Paragraph.walk)

namespace Focus.Reaches

variable {focus next : Focus} {node : NodeRef}

theorem self (focus : Focus) : focus.Reaches focus.node :=
  ⟨[], focus, rfl, Or.inl rfl⟩

theorem step
    {step : Step}
    (hstep : focus.step? step = some next)
    (h : next.Reaches node) :
    focus.Reaches node := by
  obtain ⟨address, last, hlast, hnode⟩ := h
  refine ⟨step :: address, last, ?_, hnode⟩
  rw [Focus.below?_cons, hstep]
  exact hlast

theorem child
    {α : Type} {children : List α} {view : α → Focus} {x : α}
    (hchildren : focus.children? = some (children.map view))
    (hx : x ∈ children)
    (h : (view x).Reaches node) :
    focus.Reaches node := by
  obtain ⟨index, hindex⟩ := List.mem_iff_getElem?.mp hx
  have hstep : focus.step? (.child index) = some (view x) := by
    rw [Focus.step?_child hchildren, hindex, Option.map_some]
  exact h.step hstep

end Focus.Reaches

variable {focus : Focus} {node : NodeRef}

theorem Paragraph.reaches_inlines
    {p : Paragraph}
    (hchildren : focus.children? = some (p.children.map Focus.inline))
    (hmem : node ∈ p.walkInlines) :
    focus.Reaches node := by
  obtain ⟨i, hi, rfl⟩ := List.mem_map.mp hmem
  exact Focus.Reaches.child hchildren hi (Focus.Reaches.self (.inline i))

theorem Paragraph.reaches
    {p : Paragraph}
    (hmem : node ∈ p.walk) :
    (Focus.paragraph p).Reaches node := by
  rcases List.mem_cons.mp hmem with rfl | hmem
  · exact Focus.Reaches.self (.paragraph p)
  · exact Paragraph.reaches_inlines rfl hmem

mutual

theorem ListNode.reaches_below :
    (l : ListNode) → {focus : Focus} →
      focus.children? = some (l.entries.map Focus.entry) → node ∈ l.walkBelow →
        focus.Reaches node
  | .mk _ _ _ entries, focus, hchildren, hmem => by
      rw [ListNode.walkBelow] at hmem
      obtain ⟨entry, hentry, hreaches⟩ := ListEntry.reaches_all entries hmem
      exact Focus.Reaches.child hchildren hentry hreaches

theorem ListEntry.reaches :
    (entry : ListEntry) → node ∈ entry.walk → (Focus.entry entry).Reaches node
  | .item id p lists, hmem => by
      rw [ListEntry.walk] at hmem
      rcases List.mem_cons.mp hmem with rfl | hmem
      · exact Focus.Reaches.self (.entry (.item id p lists))
      · rcases List.mem_append.mp hmem with hmem | hmem
        · have hstep : (Focus.entry (.item id p lists)).step? .paragraph =
              some (.paragraph p) := rfl
          exact (Paragraph.reaches hmem).step hstep
        · obtain ⟨l, hl, hreaches⟩ := ListNode.reaches_all lists hmem
          exact Focus.Reaches.child rfl hl hreaches
  | .sublist l, hmem => by
      rw [ListEntry.walk] at hmem
      rcases List.mem_cons.mp hmem with rfl | hmem
      · exact Focus.Reaches.self (.entry (.sublist l))
      · exact ListNode.reaches_below l rfl hmem

theorem ListEntry.reaches_all :
    (entries : List ListEntry) → node ∈ ListEntry.walkAll entries →
      ∃ entry ∈ entries, (Focus.entry entry).Reaches node
  | entry :: entries, hmem => by
      rw [ListEntry.walkAll] at hmem
      rcases List.mem_append.mp hmem with hmem | hmem
      · exact ⟨entry, List.mem_cons_self, ListEntry.reaches entry hmem⟩
      · obtain ⟨other, hother, hreaches⟩ := ListEntry.reaches_all entries hmem
        exact ⟨other, List.mem_cons_of_mem entry hother, hreaches⟩

theorem ListNode.reaches_all :
    (lists : List ListNode) → node ∈ ListNode.walkAll lists →
      ∃ l ∈ lists, (Focus.sublist l).Reaches node
  | l :: lists, hmem => by
      rw [ListNode.walkAll] at hmem
      rcases List.mem_cons.mp hmem with rfl | hmem
      · exact ⟨l, List.mem_cons_self, Focus.Reaches.self (.sublist l)⟩
      · rcases List.mem_append.mp hmem with hmem | hmem
        · exact ⟨l, List.mem_cons_self, ListNode.reaches_below l rfl hmem⟩
        · obtain ⟨other, hother, hreaches⟩ := ListNode.reaches_all lists hmem
          exact ⟨other, List.mem_cons_of_mem l hother, hreaches⟩

end

theorem Table.reaches_below
    {t : Table}
    (hmem : node ∈ t.walkBelow) :
    (Focus.block (.table t)).Reaches node := by
  rcases List.mem_append.mp hmem with hmem | hmem
  · obtain ⟨p, hp, hmem⟩ := List.mem_flatMap.mp hmem
    obtain ⟨index, hindex⟩ := List.mem_iff_getElem?.mp hp
    have hstep : (Focus.block (.table t)).step? (.header index) = some (.paragraph p) := by
      rw [Focus.step?, Focus.table?, Option.bind_some, hindex, Option.map_some]
    exact (Paragraph.reaches hmem).step hstep
  · exact ⟨[], _, rfl, Or.inr ⟨t, rfl, hmem⟩⟩

mutual

theorem Block.reaches :
    (b : Block) → node ∈ b.walk → (Focus.block b).Reaches node
  | .heading id level text, hmem => by
      rw [Block.walk] at hmem
      rw [List.mem_singleton.mp hmem]
      exact Focus.Reaches.self (.block (.heading id level text))
  | .paragraph p, hmem => by
      rcases List.mem_cons.mp hmem with rfl | hmem
      · exact Focus.Reaches.self (.block (.paragraph p))
      · exact Paragraph.reaches_inlines rfl hmem
  | .codeBlock id language code, hmem => by
      rw [Block.walk] at hmem
      rw [List.mem_singleton.mp hmem]
      exact Focus.Reaches.self (.block (.codeBlock id language code))
  | .list l, hmem => by
      rcases List.mem_cons.mp hmem with rfl | hmem
      · exact Focus.Reaches.self (.block (.list l))
      · exact l.reaches_below rfl hmem
  | .table t, hmem => by
      rcases List.mem_cons.mp hmem with rfl | hmem
      · exact Focus.Reaches.self (.block (.table t))
      · exact Table.reaches_below hmem
  | .blockQuote id bs, hmem => by
      rw [Block.walk] at hmem
      rcases List.mem_cons.mp hmem with rfl | hmem
      · exact Focus.Reaches.self (.block (.blockQuote id bs))
      · obtain ⟨b, hb, hreaches⟩ := Block.reaches_all bs hmem
        exact Focus.Reaches.child rfl hb hreaches

theorem Block.reaches_all :
    (bs : List Block) → node ∈ Block.walkAll bs → ∃ b ∈ bs, (Focus.block b).Reaches node
  | b :: bs, hmem => by
      rw [Block.walkAll] at hmem
      rcases List.mem_append.mp hmem with hmem | hmem
      · exact ⟨b, List.mem_cons_self, Block.reaches b hmem⟩
      · obtain ⟨other, hother, hreaches⟩ := Block.reaches_all bs hmem
        exact ⟨other, List.mem_cons_of_mem b hother, hreaches⟩

end

/-- Every node met on a walk has an address, up to what the bodies of tables hold. -/
theorem Root.reaches
    {root : Root}
    (hmem : node ∈ root.walk) :
    (Focus.root root).Reaches node := by
  rcases List.mem_cons.mp hmem with rfl | hmem
  · exact Focus.Reaches.self (.root root)
  · obtain ⟨b, hb, hreaches⟩ := Block.reaches_all root.children hmem
    exact Focus.Reaches.child rfl hb hreaches

end Reaches

end Tree
end DocTree
