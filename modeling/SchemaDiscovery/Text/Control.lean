/-!
Control characters and the lines of a text.
-/

namespace SchemaDiscovery.Text

def isControl (c : Char) : Bool := c.toNat < 32 || 127 ≤ c.toNat && c.toNat < 160

def lines : List Char → List (List Char)
  | [] => []
  | c :: rest =>
    if c = '\n' then [] :: lines rest
    else
      match lines rest with
      | [] => [[c]]
      | line :: others => (c :: line) :: others

example : lines "a\n\nb\n".toList = [['a'], [], ['b']] := by decide +kernel

end SchemaDiscovery.Text
