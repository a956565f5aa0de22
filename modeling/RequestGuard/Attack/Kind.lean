/-!
# Kinds of attacks

The classes of vulnerabilities that detectors look for.
-/

namespace RequestGuard

/-- A class of vulnerabilities. -/
inductive AttackKind where
  | sqlInjection
  | nosqlInjection
  | shellInjection
  | pathTraversal
  | ssrf
  | codeInjection
deriving DecidableEq, Repr

namespace AttackKind

def all : List AttackKind :=
  [.sqlInjection, .nosqlInjection, .shellInjection, .pathTraversal, .ssrf, .codeInjection]

def name : AttackKind → String
  | .sqlInjection => "sql_injection"
  | .nosqlInjection => "nosql_injection"
  | .shellInjection => "shell_injection"
  | .pathTraversal => "path_traversal"
  | .ssrf => "ssrf"
  | .codeInjection => "code_injection"

/-- A kind in a message, with its article. -/
def phrase : AttackKind → String
  | .sqlInjection => "an SQL injection"
  | .nosqlInjection => "a NoSQL injection"
  | .shellInjection => "a shell injection"
  | .pathTraversal => "a path traversal attack"
  | .ssrf => "a server-side request forgery"
  | .codeInjection => "a code injection"

def ofName? (name : String) : Option AttackKind := all.find? fun kind => kind.name == name

end AttackKind

end RequestGuard
