namespace TargetHealth.Http

/-- The signs are those of a token, but for the grave accent, which is refused. -/
def isMethodChar (c : Char) : Bool := c.isAlphanum || "!#$%&'*+-.^_|~".toList.contains c

def method? (s : String) : Option String :=
  let cs := s.toList.map Char.toUpper
  if !cs.isEmpty && cs.all isMethodChar then some (String.ofList cs) else none

end TargetHealth.Http
