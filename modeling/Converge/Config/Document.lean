import Converge.Config.Basic
import Converge.Failure
import Converge.Yaml.Composer
import Converge.Yaml.Printer
/-!
# Configurations as YAML

A configuration file is a YAML document; `ClusterConfig.ofYaml` reads one, and a fault in it is
reported with the place where it was met.  `ClusterConfig.toYaml` writes one.
-/

namespace Converge

/-- The wording of a fault in a document, after the kind of the document. -/
def Fault.report (kind : String) (f : Fault) : String :=
  match f.placedMessage? with
  | some m => kind ++ ": " ++ m
  | none => kind

/-- The configuration that a YAML text holds; `source` is where the text comes from. -/
def ClusterConfig.ofYaml (text : String) (source : Option String) : Except Failure ClusterConfig :=
  match ClusterConfig.codec.decode (Yaml.Composer.document (Yaml.tokens text)) with
  | .ok c => .ok c
  | .error f => .error (.config (.parse (f.report "YAML parse error") source))

/-- A configuration as a YAML text. -/
def ClusterConfig.toYaml (c : ClusterConfig) : String := Yaml.print (ClusterConfig.codec.write c)

end Converge
