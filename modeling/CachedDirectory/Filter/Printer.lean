import CachedDirectory.Filter.Basic

/-!
# The written form of a filter

A filter is written in the parenthesized form that directories use. In values
and fragments an asterisk, a parenthesis, a backslash and the character zero are
written as a backslash with two digits; attribute names and rule names stand as
they are.
-/

namespace CachedDirectory.Filter

/-- A character of a value in the written form. -/
def escapeChar : Char → List Char
  | '*' => ['\\', '2', 'a']
  | '(' => ['\\', '2', '8']
  | ')' => ['\\', '2', '9']
  | '\\' => ['\\', '5', 'c']
  | '\x00' => ['\\', '0', '0']
  | c => [c]

/-- A value in the written form. -/
def escape (value : String) : String :=
  String.ofList (value.toList.flatMap escapeChar)

/-- A fragment that may be missing. -/
def escapeOption (fragment : Option String) : String :=
  match fragment with
  | some content => escape content
  | none => ""

/-- The fragments of a pattern with an asterisk after each but the last. -/
def writePattern (pattern : Pattern) : String :=
  escapeOption pattern.initial ++ "*" ++
    String.join (pattern.middle.map fun fragment => escape fragment ++ "*") ++
    escapeOption pattern.final

mutual

/-- The written form of a filter. -/
def write : Filter → String
  | equals attr value => "(" ++ attr ++ "=" ++ escape value ++ ")"
  | substring attr pattern => "(" ++ attr ++ "=" ++ writePattern pattern ++ ")"
  | present attr => "(" ++ attr ++ "=*)"
  | and parts => "(&" ++ writeAll parts ++ ")"
  | or parts => "(|" ++ writeAll parts ++ ")"
  | not part => "(!" ++ write part ++ ")"
  | greaterOrEqual attr value => "(" ++ attr ++ ">=" ++ escape value ++ ")"
  | lessOrEqual attr value => "(" ++ attr ++ "<=" ++ escape value ++ ")"
  | approximate attr value => "(" ++ attr ++ "~=" ++ escape value ++ ")"
  | extensible rule attr value =>
      "(" ++ attr.getD "" ++
        (match rule with | some name => ":" ++ name | none => "") ++ ":=" ++
        escape value ++ ")"

/-- The written forms of filters, one after the other. -/
def writeAll : List Filter → String
  | [] => ""
  | part :: rest => write part ++ writeAll rest

end

end CachedDirectory.Filter
