import Locking.Resource.Line

namespace Locking

/-!
Notices given one after another to those who have a ticket. Who is not named in them notices
nothing, and who is named once is told once.
-/

/-- Everybody is told of the notices that name the own ticket. -/
def tellAll {α : Type} (tell : Notice → α → α) (table : Std.ExtTreeMap Ticket α)
    (notices : List Notice) : Std.ExtTreeMap Ticket α :=
  notices.foldl (fun table notice => table.modify notice.ticket (tell notice)) table

variable {α : Type} {tell : Notice → α → α} {table : Std.ExtTreeMap Ticket α}
  {notices : List Notice} {notice : Notice} {ticket : Ticket}

theorem getElem?_modify_notice (table : Std.ExtTreeMap Ticket α) (notice : Notice)
    (ticket : Ticket) (change : α → α) :
    (table.modify notice.ticket change)[ticket]? =
      if notice.ticket = ticket then table[ticket]?.map change else table[ticket]? := by
  by_cases same : notice.ticket = ticket
  · subst same
    rw [if_pos rfl]
    exact Std.ExtTreeMap.getElem?_modify_self
  · simp [Std.ExtTreeMap.getElem?_modify, same]

theorem getElem?_tellAll_of_not_mem (silent : ∀ notice ∈ notices, notice.ticket ≠ ticket) :
    (tellAll tell table notices)[ticket]? = table[ticket]? := by
  induction notices generalizing table with
  | nil => rfl
  | cons first rest ih =>
      change (tellAll tell (table.modify first.ticket (tell first)) rest)[ticket]? = table[ticket]?
      rw [ih (fun other member => silent other (by simp [member])), getElem?_modify_notice,
        if_neg (silent first (by simp))]

theorem getElem?_tellAll_of_mem (distinct : (notices.map Notice.ticket).Nodup)
    (given : notice ∈ notices) :
    (tellAll tell table notices)[notice.ticket]? = table[notice.ticket]?.map (tell notice) := by
  induction notices generalizing table with
  | nil => contradiction
  | cons first rest ih =>
      obtain ⟨different, distinct⟩ := List.nodup_cons.mp distinct
      change (tellAll tell (table.modify first.ticket (tell first)) rest)[notice.ticket]? = _
      rcases List.mem_cons.mp given with rfl | given
      · have silent : ∀ other ∈ rest, other.ticket ≠ notice.ticket :=
          fun other member same => different (same ▸ List.mem_map_of_mem member)
        rw [getElem?_tellAll_of_not_mem silent, getElem?_modify_notice, if_pos rfl]
      · have other : first.ticket ≠ notice.ticket :=
          fun same => different (same ▸ List.mem_map_of_mem given)
        rw [ih distinct given, getElem?_modify_notice, if_neg other]

end Locking
