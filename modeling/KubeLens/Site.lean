import KubeLens.Plurals
import KubeLens.Switchboard

/-!
# What all requests share

A site is the surroundings of the program, its active connection and the plurals that it knows.
-/

namespace KubeLens

/-- The state that every request reads and may change. -/
structure Site where
  settings : Settings
  host : Host := {}
  fleet : Fleet := {}
  board : Switchboard := {}
  plurals : Plurals := {}

namespace Site

/-- The connection for a request. -/
def resolve (site : Site) (context? : Option String) : Except ServiceError Handle × Site :=
  let (answer, board, fleet) := site.board.resolve site.settings site.host site.fleet context?
  (answer, { site with board, fleet })

/-- Makes a context active. -/
def setActive (site : Site) (name : String) : Except ServiceError Unit × Site :=
  let (answer, board, fleet) := site.board.ensureActive site.settings site.host site.fleet name
  (answer.map fun _ => (), { site with board, fleet })

/-- The plural of a kind: the one that is given, if it is not empty, or else the one that is
found. -/
def pluralOf (site : Site) (client : Client) (gv : GroupVersion) (kind : String)
    (given : Option String) : String × Site :=
  match given.filter (!·.isEmpty) with
  | some plural => (plural, site)
  | none =>
    let (plural, plurals, fleet) := site.plurals.resolve client site.fleet gv kind
    (plural, { site with plurals, fleet })

/-- Lists objects of a type. -/
def listWith (site : Site) (client : Client) (type : ResourceType) (space : Option String)
    (query : ListQuery) : Except ClusterError ObjectPage × Site :=
  let (answer, fleet) := client.list site.fleet type space query
  (answer, { site with fleet })

/-- Gets an object of a type; none when there is never an answer. -/
def getWith (site : Site) (client : Client) (type : ResourceType) (space : Option String)
    (name : String) : Option (Except ClusterError Json) × Site :=
  let (answer, fleet) := client.get site.fleet type space name
  (answer, { site with fleet })

/-- Gets an object of a builtin kind. -/
def getBuiltinWith (site : Site) (client : Client) (kind : BuiltinKind) (space : Option String)
    (name : String) : Except ClusterError Json × Site :=
  let (answer, fleet) := client.getBuiltin site.fleet kind space name
  (answer, { site with fleet })

end Site
end KubeLens
