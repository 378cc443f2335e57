/-!
# Regular expressions

Whether a text is a regular expression: groups and classes are closed, signs of repetition follow
something, and what is escaped has a meaning. What is named in a group or a class is not looked up.
-/

namespace MqttLink.Text.Pattern

/-- Whether a backslash in front of it means something. -/
def isEscape (c : Char) : Bool :=
  if c.isAlphanum then "dDsSwWaftnrvAzxuUpP".toList.contains c
  else c.toNat < 128 && c != '<' && c != '>'

/-- The rest of a pattern, in so many groups and classes that are open. -/
def ends (groups classes : Nat) (isAfterTerm : Bool) : List Char → Bool
  | [] => groups == 0 && classes == 0
  | '\\' :: [] => false
  | '\\' :: c :: rest => isEscape c && ends groups classes true rest
  | '[' :: ']' :: rest | '[' :: '^' :: ']' :: rest | '[' :: rest =>
    ends groups (classes + 1) true rest
  | ']' :: rest => ends groups (classes - 1) true rest
  | '(' :: '?' :: c :: rest =>
    if 0 < classes then ends groups classes true (c :: rest)
    else c != '=' && c != '!' && c != ')' && ends (groups + 1) 0 true (c :: rest)
  | c :: rest =>
    if 0 < classes then ends groups classes true rest
    else match c with
    | '(' => ends (groups + 1) 0 false rest
    | ')' => 0 < groups && ends (groups - 1) 0 true rest
    | '|' => ends groups 0 false rest
    | '*' | '+' | '?' => isAfterTerm && ends groups 0 true rest
    | '\x7b' => false
    | _ => ends groups 0 true rest

end Pattern

def isPattern (s : String) : Bool := Pattern.ends 0 0 false s.toList

example : ["a.*", "(a|b)+", "[^]]", "\\d", ""].all isPattern = true := by decide +kernel

example : ["*", "(a", "a)", "[a", "\\"].any isPattern = false := by decide +kernel

end MqttLink.Text
