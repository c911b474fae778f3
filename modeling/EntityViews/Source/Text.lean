import EntityViews.Source.JsonText
import EntityViews.Source.TomlText

/-! Texts of either format.
-/

namespace EntityViews

def Reading.ofText : Format → String → Reading
  | .json => JsonText.read
  | .toml => TomlText.read

end EntityViews
