import FixturePlan.Settings.Reader

/-!
# Settings as documents

The JSON form of settings, in which every setting is written out.
-/

namespace FixturePlan

namespace ConnectionSettings

def toJson (c : ConnectionSettings) : Json :=
  .object [("driver", .text c.driver), ("path", .text c.path), ("schema", .text c.schema)]

end ConnectionSettings

namespace ExtractSettings

def toJson (e : ExtractSettings) : Json :=
  .object [("tables", .list .text e.tables), ("exclude", .list .text e.exclude),
    ("fetch_size", .nat e.fetchSize)]

end ExtractSettings

namespace InclusionSettings

def toJson (i : InclusionSettings) : Json :=
  .object [("default", .text i.fallback.word), ("drop", .list .text i.drop),
    ("existing", .list .text i.existing)]

end InclusionSettings

namespace Settings

def toJson (s : Settings) : Json :=
  .object [("connection", s.connection.toJson), ("extract", s.extract.toJson),
    ("resolve", .object [("unresolved_required", .text s.resolve.unresolvedRequired.word)]),
    ("inclusion", s.inclusion.toJson),
    ("naming", .object [("singularize_entities", .bool s.naming.singularizeEntities)])]

end Settings

end FixturePlan
