import PassageEditor.Proofs.Buffer.Checked

/-!
# A replacement splices the text

The ends of a replacement are moved to the last position of the text that does not lie behind them
(`Buffer.lastUpTo_clamp`).  What stands between the two gives way to the new text, and the cursor goes to
the end of that; with checked arithmetic only a mark that sinks is in the way
(`Buffer.spliced_replaceRange`).
-/

namespace PassageEditor

open Position (origin)

namespace Buffer

/-- The second position lies before the first, and the first behind the end of its line. -/
example : ((ofText "one\ntwo").replaceRange "X\nY" ⟨0, 9⟩ ⟨0, 1⟩).text = "oneX\nY\ntwo" := by
  decide +kernel

end Buffer

end PassageEditor
