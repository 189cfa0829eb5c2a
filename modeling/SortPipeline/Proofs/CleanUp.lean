import SortPipeline.Proofs.Removal
import SortPipeline.Proofs.Simultaneous

/-! Writing new members and removing them again. A removal moves the last member into the hole, so
the new members change places; the members from before stand in front of them all the time, as they
were, and are all that is left in the end. -/

namespace SortPipeline.Stage

theorem dropInPlace_eq (names : List String) (document : Value) :
    dropInPlace names document = drop names document := by
  simp only [dropInPlace, drop, Value.snd_remove]

theorem writeEach_eq_done_iff {writes : List (String × Option Value)} {document after : Value} :
    writeEach writes document = .done after ↔ writeAll document writes = .ok after := by
  rw [← result_writeEach, Outcome.result_eq_ok_iff]

variable {members : List (String × Value)} {writes : List (String × Option Value)}

/-- Whatever has been removed so far, the other new members stand behind the old ones, in some
order. After the last removal the document is the one from before. -/
theorem clean_up_restores (hnodup : (Entries.names writes).Nodup)
    (hfresh : ∀ n ∈ Entries.names writes, Path.Undotted n ∧ n ∉ Entries.names members)
    {order : List String} (horder : order.Perm (Entries.names writes)) :
    ∃ written, writeEach writes (.object members) = .done written ∧
      (∀ removed, removed <+: order → ∃ left,
        dropInPlace removed written = .object (members ++ left) ∧
        left.Perm (Entries.without removed (Entries.present writes))) ∧
      dropInPlace order written = .object members := by
  have hsublist := Entries.names_present_sublist writes
  have hpresent := hnodup.sublist hsublist
  have hnew : ∀ n ∈ order, Path.Undotted n ∧ n ∉ Entries.names members := fun n hn =>
    hfresh n (horder.mem_iff.1 hn)
  refine ⟨.object (members ++ Entries.present writes), ?_, fun removed hremoved => ?_, ?_⟩
  · rw [writeEach_eq_done_iff]
    exact writeAll_object hnodup hfresh
  · rw [dropInPlace_eq]
    exact exists_drop_append members (fun n hn => hnew n (hremoved.subset hn)) hpresent
  · rw [dropInPlace_eq]
    exact drop_append hnew hpresent fun n hn => horder.mem_iff.2 (hsublist.subset hn)

def book : List (String × Value) := [("title", .string "B"), ("tags", .array [.null])]

def bookKeys : List (String × Option Value) :=
  [("title__sort_lower", some (.string "b")), ("tags__sort_size", some (.number (.int 1))),
    ("printed__sort_date", none), ("id__sort_lower", some (.string ""))]

def bookOrder : List String :=
  ["title__sort_lower", "printed__sort_date", "id__sort_lower", "tags__sort_size"]

theorem book_clean_up :
    (Entries.names bookKeys).Nodup ∧
    (∀ n ∈ Entries.names bookKeys, Path.Undotted n ∧ n ∉ Entries.names book) ∧
    bookOrder.Perm (Entries.names bookKeys) ∧
    ∃ written, writeEach bookKeys (.object book) = .done written ∧
      dropInPlace ["title__sort_lower"] written = .object (book ++
        [("id__sort_lower", .string ""), ("tags__sort_size", .number (.int 1))]) ∧
      dropInPlace bookOrder written = .object book := by
  have hnodup : (Entries.names bookKeys).Nodup := by decide
  have hfresh : ∀ n ∈ Entries.names bookKeys, Path.Undotted n ∧ n ∉ Entries.names book := by
    simp [bookKeys, book, Path.Undotted]
  have horder : bookOrder.Perm (Entries.names bookKeys) := by decide
  obtain ⟨written, hwritten, -, hback⟩ := clean_up_restores hnodup hfresh horder
  refine ⟨hnodup, hfresh, horder, written, hwritten, ?_, hback⟩
  cases hwritten
  rfl

end SortPipeline.Stage
