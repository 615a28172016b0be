import DocPath.Proofs.Json.Tokens

/-!
Where the text of a document ends. A string ends at the quote that closes it and an array or an
object at its bracket, so documents made of these say themselves how far they go: two of them that
start one text are the same. Numbers do not.
-/

namespace DocPath.Json

section Listed

variable {α : Type} (write : α → List Char) (close : Char)

def listedBehind : List α → List Char
  | [] => [close]
  | a :: as => ',' :: (write a ++ listedBehind as)

def listed : List α → List Char
  | [] => [close]
  | a :: as => write a ++ listedBehind write close as

variable {write close} {as bs : List α} {r r' : List Char}

end Listed

end DocPath.Json
