/-!
# Letter case

Field names and operator words are recognised in any letter case. Only ASCII letters take part: no
other letter has a lower-case form that is spelled with the letters of those words.
-/

namespace MailSearch.Text

/-- A text with its ASCII letters in lower case. -/
def lower (text : String) : String :=
  String.ofList (text.toList.map Char.toLower)

@[simp] theorem toList_lower (text : String) :
    (lower text).toList = text.toList.map Char.toLower := by
  simp [lower]

end MailSearch.Text
