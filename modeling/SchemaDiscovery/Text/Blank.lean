import SchemaDiscovery.Text.Span
/-!
White space: the characters with the Unicode property `White_Space`, and trimming by them.
-/

namespace SchemaDiscovery.Text

def blanks : Spans :=
  [(0x9, 0xD), (0x20, 0x20), (0x85, 0x85), (0xA0, 0xA0), (0x1680, 0x1680), (0x2000, 0x200A),
    (0x2028, 0x2029), (0x202F, 0x202F), (0x205F, 0x205F), (0x3000, 0x3000)]

def isBlank (c : Char) : Bool := blanks.contains c

def dropBlanks (text : List Char) : List Char := text.dropWhile isBlank

def dropFinalBlanks (text : List Char) : List Char := (dropBlanks text.reverse).reverse

def trim (text : List Char) : List Char := dropFinalBlanks (dropBlanks text)

end SchemaDiscovery.Text
