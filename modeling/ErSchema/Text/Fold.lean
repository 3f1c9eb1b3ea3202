import ErSchema.Text.Mark
import ErSchema.Text.Normal

/-!
# Folding diacritics

A name is folded by bringing it into normal form D and dropping its combining marks, so that
`Relación` becomes `Relacion`.
-/

namespace ErSchema.Text

/-- A name without its diacritics (`fold_diacritics`). -/
def foldDiacritics (s : String) : String :=
  String.ofList ((normalD s.toList).filter fun c => !isMark c)

end ErSchema.Text
