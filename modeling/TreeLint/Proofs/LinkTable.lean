import TreeLint.Tree.Basic

/-!
# The table of links

The table is filled by going through all slots of all nodes, and a later link
overwrites an earlier one.  Every link in it leads back to a slot that holds
the node, and every node in a slot has a link.  Where no node stands in two
slots the table is therefore the exact inverse of the slots.
-/

namespace TreeLint

/-- The slot that a link names holds the node. -/
def Link.LeadsFrom (nodes : Array NodeData) (child : Nat) (link : Link) : Prop :=
  ∃ data, nodes[link.parent]? = some data ∧ data.slots[link.slot]? = some (some child)

/-- What a step of a fold brings about and all steps keep holds at the end. -/
theorem foldl_of_mem {α β : Type} {step : β → α → β} {reached : β → Prop}
    (inv : β → Prop) (invStep : ∀ state item, inv state → inv (step state item))
    (keeps : ∀ state item, reached state → reached (step state item))
    {item : α} (brings : ∀ state, inv state → reached (step state item))
    {items : List α} (member : item ∈ items) {state : β} (start : inv state) :
    reached (items.foldl step state) := by
  induction items generalizing state with
  | nil => simp at member
  | cons first rest ih =>
      rcases List.mem_cons.mp member with here | later
      · subst here
        exact List.foldlRecOn rest step (brings state start)
          fun state holds item _ => keeps state item holds
      · exact ih later (invStep state first start)

/-- Some link has been entered for a node. -/
def Linked (child : Nat) (links : Array (Option Link)) : Prop :=
  ∃ link, links[child]? = some (some link)

/-- Enters the link of one slot with its position. -/
def linkSlot (parent : Nat) (links : Array (Option Link)) (entry : Option Nat × Nat) :
    Array (Option Link) :=
  match entry.1 with
  | some child => links.setIfInBounds child (some ⟨parent, entry.2⟩)
  | none => links

theorem linkSlots_eq (parent : Nat) (links : Array (Option Link))
    (slots : Array (Option Nat)) :
    linkSlots parent links slots = slots.toList.zipIdx.foldl (linkSlot parent) links := rfl

theorem size_linkSlot (parent : Nat) (links : Array (Option Link))
    (entry : Option Nat × Nat) : (linkSlot parent links entry).size = links.size := by
  unfold linkSlot
  split
  · exact Array.size_setIfInBounds
  · rfl

theorem size_linkSlots (parent : Nat) (links : Array (Option Link))
    (slots : Array (Option Nat)) : (linkSlots parent links slots).size = links.size := by
  rw [linkSlots_eq]
  induction slots.toList.zipIdx generalizing links with
  | nil => rfl
  | cons entry rest ih => rw [List.foldl_cons, ih, size_linkSlot]

theorem linkSlot_sound {parent child : Nat} {links : Array (Option Link)}
    {entry : Option Nat × Nat} {link : Link}
    (found : (linkSlot parent links entry)[child]? = some (some link)) :
    links[child]? = some (some link) ∨ entry = (some child, link.slot) ∧ link.parent = parent := by
  obtain ⟨slot, index⟩ := entry
  cases slot with
  | none => exact .inl found
  | some other =>
      rw [linkSlot] at found
      by_cases same : other = child
      · subst same
        right
        obtain ⟨inside, holds⟩ := Array.getElem?_eq_some_iff.mp found
        rw [Array.getElem_setIfInBounds_self, Option.some.injEq] at holds
        subst holds
        exact ⟨rfl, rfl⟩
      · left
        rwa [Array.getElem?_setIfInBounds_ne same] at found

theorem linked_linkSlot {parent child : Nat} {links : Array (Option Link)}
    {entry : Option Nat × Nat} (linked : Linked child links) :
    Linked child (linkSlot parent links entry) := by
  obtain ⟨link, holds⟩ := linked
  obtain ⟨slot, index⟩ := entry
  cases slot with
  | none => exact ⟨link, holds⟩
  | some other =>
      obtain ⟨inside, -⟩ := Array.getElem?_eq_some_iff.mp holds
      by_cases same : other = child
      · subst same
        exact ⟨⟨parent, index⟩, Array.getElem?_setIfInBounds_self_of_lt inside⟩
      · exact ⟨link, by rw [linkSlot, Array.getElem?_setIfInBounds_ne same, holds]⟩

theorem linked_linkSlots {parent child : Nat} {links : Array (Option Link)}
    {slots : Array (Option Nat)} (linked : Linked child links) :
    Linked child (linkSlots parent links slots) :=
  List.foldlRecOn slots.toList.zipIdx (linkSlot parent) linked
    fun _ linked _ _ => linked_linkSlot linked

theorem linked_of_mem {parent child : Nat} {links : Array (Option Link)}
    {slots : Array (Option Nat)} (isChild : some child ∈ slots) (inside : child < links.size) :
    Linked child (linkSlots parent links slots) := by
  obtain ⟨index, bound, holds⟩ := Array.mem_iff_getElem.mp isChild
  have indexed : (some child, index) ∈ slots.toList.zipIdx := by
    rw [List.mk_mem_zipIdx_iff_getElem?]
    simpa [bound] using holds
  rw [linkSlots_eq]
  refine foldl_of_mem (fun links => child < links.size) ?_ ?_ ?_ indexed inside
  · intro links entry inside
    rwa [size_linkSlot]
  · intro links entry linked
    exact linked_linkSlot linked
  · intro links inside
    exact ⟨⟨parent, index⟩, Array.getElem?_setIfInBounds_self_of_lt inside⟩

theorem linksOf_sound {nodes : Array NodeData} {child : Nat} {link : Link}
    (found : (linksOf nodes)[child]? = some (some link)) :
    link.LeadsFrom nodes child := by
  let sound (links : Array (Option Link)) : Prop :=
    ∀ link : Link, links[child]? = some (some link) → link.LeadsFrom nodes child
  suffices whole : sound (linksOf nodes) from whole link found
  refine List.foldlRecOn (motive := sound) _ _ ?_ ?_
  · intro link impossible
    rw [Array.getElem?_replicate] at impossible
    split at impossible <;> simp at impossible
  · rintro links soFar ⟨data, id⟩ isNode
    rw [List.mk_mem_zipIdx_iff_getElem?, Array.getElem?_toList] at isNode
    refine List.foldlRecOn (motive := sound) data.slots.toList.zipIdx (linkSlot id) soFar ?_
    intro links soFar entry isSlot link found
    rcases linkSlot_sound found with old | ⟨rfl, rfl⟩
    · exact soFar link old
    · rw [List.mk_mem_zipIdx_iff_getElem?, Array.getElem?_toList] at isSlot
      exact ⟨data, isNode, isSlot⟩

theorem linked_linksOf {nodes : Array NodeData} {child : Nat} {link : Link}
    (first : ChildrenFirst nodes) (leads : link.LeadsFrom nodes child) :
    Linked child (linksOf nodes) := by
  obtain ⟨data, isNode, isSlot⟩ := leads
  have indexed : (data, link.parent) ∈ nodes.toList.zipIdx := by
    rw [List.mk_mem_zipIdx_iff_getElem?, Array.getElem?_toList]
    exact isNode
  have isChild : some child ∈ data.slots := Array.mem_of_getElem? isSlot
  have inside : child < nodes.size := by
    have before := first link.parent data child isNode isChild
    have parentInside := (Array.getElem?_eq_some_iff.mp isNode).1
    omega
  refine foldl_of_mem (fun links => child < links.size) ?_ ?_ ?_ indexed ?_
  · rintro links ⟨data, id⟩ inside
    simpa [size_linkSlots] using inside
  · rintro links ⟨data, id⟩ linked
    exact linked_linkSlots linked
  · intro links inside
    exact linked_of_mem isChild inside
  · simpa using inside

/-- Where no node stands in two slots, the table of links is the exact inverse
of the slots, although a later link would overwrite an earlier one. -/
theorem linksOf_eq_some_iff {nodes : Array NodeData} (first : ChildrenFirst nodes)
    (unique : ∀ child (one other : Link), one.LeadsFrom nodes child →
      other.LeadsFrom nodes child → one = other) (child : Nat) (link : Link) :
    (linksOf nodes)[child]? = some (some link) ↔ link.LeadsFrom nodes child := by
  constructor
  · exact linksOf_sound
  · intro leads
    obtain ⟨other, found⟩ := linked_linksOf first leads
    rw [found, unique child other link (linksOf_sound found) leads]

end TreeLint
