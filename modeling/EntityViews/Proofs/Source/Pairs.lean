import EntityViews.Source.TomlText
import Mathlib.Data.List.Basic

/-! TOML texts of one pair.
Such a text gives a table of one member: its key, if that needs no quotes, with its value.
-/

namespace EntityViews.TomlText

/-- A key that needs no quotes. -/
structure IsPlainKey (key : String) : Prop where
  nonempty : key.toList ≠ []
  letters : ∀ c ∈ key.toList, isKeyChar c = true

variable {key : String} (plain : IsPlainKey key)

include plain

/-- A plain key begins with none of the characters that mean something else in its place. -/
theorem IsPlainKey.exists_cons
    : ∃ first rest,
        key.toList = first :: rest ∧ ∀ other, isKeyChar other = false → first ≠ other := by
  obtain ⟨first, rest, starts⟩ := List.exists_cons_of_ne_nil plain.nonempty
  refine ⟨first, rest, starts, ?_⟩
  intro other special same
  subst same
  have letter := plain.letters first (starts ▸ List.mem_cons_self)
  rw [special] at letter
  contradiction

theorem skipSpace_plain (rest : List Char)
    : skipSpace (key.toList ++ rest) = key.toList ++ rest := by
  obtain ⟨first, more, starts, other⟩ := plain.exists_cons
  have visible : isSpace first = false := by
    simp [isSpace, other ' ' (by decide), other '\t' (by decide)]
  rw [skipSpace, starts, List.cons_append, List.dropWhile_cons_of_neg (by simp [visible])]

theorem readKeyPart_plain (rest : List Char)
    : readKeyPart (key.toList ++ ' ' :: rest) = some (key, ' ' :: rest) := by
  obtain ⟨first, more, starts, other⟩ := plain.exists_cons
  have unquoted : readLine (key.toList ++ ' ' :: rest) = none := by
    have double := other '"' (by decide)
    have single := other '\'' (by decide)
    rw [starts, List.cons_append]
    unfold readLine
    split <;> simp_all
  have bare : (key.toList ++ ' ' :: rest).takeWhile isKeyChar = key.toList := by
    have stop : isKeyChar ' ' = false := by decide
    rw [List.takeWhile_append_of_pos plain.letters, List.takeWhile_cons_of_neg (by simp [stop]),
      List.append_nil]
  simp [readKeyPart, unquoted, bare, plain.nonempty]

theorem readKey_plain (rest : List Char)
    : readKey (key.toList ++ ' ' :: '=' :: rest) = some ([], key, '=' :: rest) := by
  have behind : skipSpace (' ' :: '=' :: rest) = '=' :: rest := by simp [skipSpace, isSpace]
  simp [readKey, readKeyParts, skipSpace_plain plain, readKeyPart_plain plain, behind,
    nestingLimit]

variable {rest : List Char} {value : Source} (ends : skipLine rest = some [])

include ends

/-- A pair that ends a text is the only member if nothing stands before it. -/
theorem readStatement_pair {text : List Char}
    (reads
      : readValue (2 * (skipSpace text).length + 2) (nestingLimit - 1) (skipSpace text)
        = some (value, rest))
    : readStatement ⟨[], []⟩ (key.toList ++ ' ' :: '=' :: ' ' :: text)
      = some (⟨[(key, .value value)], []⟩, []) := by
  obtain ⟨first, more, starts, other⟩ := plain.exists_cons
  have noHeader := other '[' (by decide)
  have behind : skipSpace (' ' :: text) = skipSpace text := rfl
  have added : Node.addPairAt [] [] key value [] = some [(key, .value value)] := by
    simp [Node.addPairAt, Node.updateAt, Node.addPair]
  unfold readStatement
  split
  · simp_all
  · simp_all
  · simp [readKey_plain plain, readMark, behind, reads, added, ends]

/-- A text of one pair gives a table of one member. -/
theorem read_pair {text : String}
    (reads
      : readValue (2 * (skipSpace text.toList).length + 2) (nestingLimit - 1)
          (skipSpace text.toList)
        = some (value, rest))
    : read (key ++ " = " ++ text) = ⟨.object [(key, value)] true, true⟩ := by
  obtain ⟨first, more, starts, other⟩ := plain.exists_cons
  have whole
      : (key ++ " = " ++ text).toList = key.toList ++ ' ' :: '=' :: ' ' :: text.toList := by
    simp [String.toList_append]
  have unmarked
      : skipMark (key.toList ++ ' ' :: '=' :: ' ' :: text.toList)
        = key.toList ++ ' ' :: '=' :: ' ' :: text.toList := by
    have noMark := other '\ufeff' (by decide)
    rw [starts, List.cons_append]
    unfold skipMark
    split <;> simp_all
  have noComment : first ≠ '#' := other '#' (by decide)
  have noBreak : readBreak (first :: (more ++ ' ' :: '=' :: ' ' :: text.toList)) = none := by
    have noFeed := other '\n' (by decide)
    have noReturn := other '\r' (by decide)
    unfold readBreak
    split <;> simp_all
  have statement := readStatement_pair plain ends reads
  have visible := skipSpace_plain plain (' ' :: '=' :: ' ' :: text.toList)
  rw [read, whole, unmarked, starts]
  simp only [starts, List.cons_append, List.length_cons] at statement visible ⊢
  simp only [readStatements, visible, noComment, noBreak, statement]
  simp [skipSpace, Node.membersToSource, Node.toSource]

end EntityViews.TomlText
