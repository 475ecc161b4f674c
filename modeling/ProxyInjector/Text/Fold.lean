import ProxyInjector.Text.Case

/-!
# Folding of cases

Texts that differ by cases only are folded to one text.  Folding is lower case character by
character, with three letters that have no capital of their own folded to letters that do.
-/

namespace ProxyInjector.Text

def foldChar (c : Char) : List Char :=
  if c = 'ß' then ['s', 's']
  else if c = 'ς' then ['σ']
  else if c = '\u0345' then ['ι']
  else lowerChar [] c []

end ProxyInjector.Text
