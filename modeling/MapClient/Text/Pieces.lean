/-!
# Lists cut at separators

Paths, host names, header values and filter texts are lists of pieces. A cut
keeps empty pieces, so there is always one more piece than separators, and
joining the pieces gives the list back.
-/

set_option autoImplicit false

namespace MapClient.Text

variable {α : Type}

def extend (a : α) : List (List α) → List (List α)
  | [] => [[a]]
  | p :: ps => (a :: p) :: ps

def pieces (sep : α → Bool) (as : List α) : List (List α) :=
  as.foldr (fun a ps => if sep a then [] :: ps else extend a ps) [[]]

def cut (sep : α → Bool) : List α → List α × Option (List α)
  | [] => ([], none)
  | a :: as =>
    if sep a then ([], some as)
    else (a :: (cut sep as).1, (cut sep as).2)

def dropEnd (p : α → Bool) (as : List α) : List α :=
  (as.reverse.dropWhile p).reverse

def strip (p : α → Bool) (as : List α) : List α :=
  dropEnd p (as.dropWhile p)

def after? [BEq α] : List α → List α → Option (List α)
  | [], as => some as
  | _ :: _, [] => none
  | p :: ps, a :: as => if p == a then after? ps as else none

end MapClient.Text
