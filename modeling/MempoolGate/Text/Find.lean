namespace MempoolGate.Text

def beforeFirst? (mark : List Char) : List Char → Option (List Char)
  | [] => if mark = [] then some [] else none
  | c :: rest =>
    if mark.isPrefixOf (c :: rest) then some []
    else (beforeFirst? mark rest).map (c :: ·)

def contains (s mark : String) : Bool :=
  (beforeFirst? mark.toList s.toList).isSome

end MempoolGate.Text
