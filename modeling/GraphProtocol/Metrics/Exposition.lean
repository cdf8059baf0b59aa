import GraphProtocol.Metrics.Readings

/-!
# The text form of metrics

Families of samples, by name, each with a line of help and a line that gives its
type. Within a family the series are ordered by label. A family that could have
series but has none is left out.
-/

set_option autoImplicit false

namespace GraphProtocol

inductive SampleRole where
  | value
  | bucket
  | sum
  | count
  deriving DecidableEq, Repr

structure Sample where
  role : SampleRole
  /-- The name, with labels in braces. -/
  series : String
  value : String
  deriving DecidableEq, Repr

structure MetricFamily where
  name : String
  help : String
  type : String
  samples : List Sample
  deriving DecidableEq, Repr

namespace Metrics

def labelChar : Char → List Char
  | '\\' => ['\\', '\\']
  | '\n' => ['\\', 'n']
  | '"' => ['\\', '"']
  | c => [c]

def label (name value : String) : String :=
  name ++ "=\"" ++ String.ofList (value.toList.flatMap labelChar) ++ "\""

def labelled (name : String) (labels : List String) : String :=
  name ++ "\x7b" ++ ",".intercalate labels ++ "\x7d"

def byKey {α : Type} (d : Dict α) : List (String × α) :=
  d.entries.mergeSort fun a b => !decide (b.1 < a.1)

def tallySamples (name key : String) (tally : Dict Nat) : List Sample :=
  (byKey tally).map fun (value, n) => ⟨.value, labelled name [label key value], toString n⟩

def histogramSamples (name message : String) (h : Histogram) : List Sample :=
  let own := label "message" message
  let bucket (bound : String) (n : UInt64) : Sample :=
    ⟨.bucket, labelled (name ++ "_bucket") [own, label "le" bound], toString n⟩
  h.cumulative.map (fun (bound, n) => bucket bound.toText n) ++
    [bucket "+Inf" h.count, ⟨.sum, labelled (name ++ "_sum") [own], h.sum.toText⟩,
      ⟨.count, labelled (name ++ "_count") [own], toString h.count⟩]

def single (name help type value : String) : MetricFamily :=
  ⟨name, help, type, [⟨.value, name, value⟩]⟩

def tally (name help key : String) (counts : Dict Nat) : MetricFamily :=
  ⟨name, help, "counter", tallySamples name key counts⟩

def families (m : Metrics) : List MetricFamily :=
  let r := m.readings
  let duration := "graphwire_request_duration_seconds"
  [single "graphwire_connections_active" "Number of currently open connections" "gauge"
      (toString r.connectionsActive),
    single "graphwire_connections_total" "Total number of connections accepted" "counter"
      (toString r.connectionsTotal),
    tally "graphwire_failures_total" "FAILURE responses by status code" "code" r.failures,
    single "graphwire_handshakes_refused_total"
      "Handshakes rejected for a bad preamble or no common version" "counter"
      (toString r.handshakesRefused),
    tally "graphwire_ignored_total" "IGNORED responses by message" "message" r.ignored,
    ⟨duration, "Time until the terminal response by message", "histogram",
      (byKey r.durations).flatMap fun (message, h) => histogramSamples duration message h⟩,
    tally "graphwire_requests_total" "Requests received by message" "message" r.requests].filter
    fun family => !family.samples.isEmpty

def samples (m : Metrics) : List Sample := m.families.flatMap MetricFamily.samples

def lines (m : Metrics) : List String :=
  m.families.flatMap fun family =>
    ("# HELP " ++ family.name ++ " " ++ family.help) ::
      ("# TYPE " ++ family.name ++ " " ++ family.type) ::
      family.samples.map fun sample => sample.series ++ " " ++ sample.value

end Metrics

structure Page where
  status : Nat
  contentType : String
  lines : List String
  deriving DecidableEq, Repr

def Metrics.page (m : Metrics) (path : String) : Page :=
  match path with
  | "/metrics" => ⟨200, "text/plain; version=0.0.4; charset=utf-8", m.lines⟩
  | "/health" | "/healthz" => ⟨200, "text/plain", ["OK"]⟩
  | _ => ⟨404, "text/plain", ["Not Found"]⟩

end GraphProtocol
