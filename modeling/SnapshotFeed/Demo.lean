import SnapshotFeed.Connector

/-! The demo: a connector whose first five payloads are printed. -/
namespace SnapshotFeed.Demo

/-- How many payloads are printed. -/
def count : Nat := 5

def line (p : Payload) : String :=
  (match p.kind with
    | .data => "configuration: "
    | .error => "stream error: ") ++ p.content ++ "\n"

/-- The configuration of a demo; what is not given is standard. -/
def config (url token : Option String) : Config :=
  {Config.standard with baseUrl := url.getD Config.standard.baseUrl, token}

/-- The next payloads of a connector, as long as there are any. -/
def takePayloads : Nat → Connector → List Payload
  | 0, _ => []
  | n + 1, c =>
    match c.take with
    | (some (.ok p), c) => p :: takePayloads n c
    | _ => []

/-- A run against a server with these replies: what is printed and the exit code. A
configuration that cannot be used ends the run at once. -/
def run (c : Config) (replies : List Http.Reply) : String × Nat :=
  match Connector.start c replies with
  | .error _ => ("", 101)
  | .ok connector => (String.join ((takePayloads count connector).map line), 0)

end SnapshotFeed.Demo
