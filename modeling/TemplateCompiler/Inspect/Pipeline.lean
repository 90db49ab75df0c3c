import TemplateCompiler.IR.Invariants
import TemplateCompiler.Inspect.IR
import TemplateCompiler.Pipeline.Run

/-!
# Views of pipelines, documents and traces
-/

namespace TemplateCompiler

def Configuration.ofJson (j : Json) : Configuration :=
  { version := if j.has "rawVersion" then ⟨j.ordinal "rawVersion"⟩
      else ((LanguageVersion.read (j.str "version")).toOption).getD .latest
    designTime := j.flag "designTime", rootNamespace := j.str "rootNamespace"
    code := .ofJson (j.get "codegen"), leadingDirectivesOnly := j.flag "leading" }

/-- The document that a value describes, with its files. -/
def World.ofJson (j : Json) (defaultPath : Text) (helpers? : Option (List TagHelper)) : World :=
  let path := if j.has "path" then j.str "path" else defaultPath
  let (files, _) := FileSet.empty.addJson j path
  let files := (j.all "imports").foldl (fun s f => (s.addJson f (f.str "path")).1) files
  match files.files.toList with
  | [] => { document := { source? := none }, files }
  | source :: imports =>
    let d := CodeDocument.ofSource source imports
    { document := { d with
        fileKind := (FileKind.ofName? (j.str "kind")).getD d.fileKind
        helpers? }
      files }

namespace Trace

def Event.ofJson (j : Json) : Event :=
  { kind := .ofOrdinal (j.ordinal "kind"), scope := ⟨j.ordinal "scope"⟩, time := j.int "micros"
    span := j.nat "span", parent := j.nat "parent", thread := j.nat "gid", name := j.str "name"
    detail := j.str "detail"
    extra := (j.get "extra").members.foldl (fun es e => Event.setExtra e.1 e.2.bytes es) [] }

def Event.view (e : Event) : Json := .array (
  [.string e.kind.name, .string e.scope.name, .ofNat e.span, .ofNat e.parent, .string e.name,
    .string e.detail]
    ++ if e.extra.isEmpty then []
      else [.object (e.extra.map fun (key, value) => (key, .string value))])

/-- The view of the events in a ring. -/
def Tracer.view (t : Tracer) : List (String × Json) :=
  Json.optional "ring" (t.ringEvents?.map fun es => Json.list es Event.view)

end Trace

def IR.Document.view (d : IR.Document) (files : FileSet) : List (String × Json) :=
  let defects := d.defects files
  [("docKind", .string d.header.kind), ("model", .string d.header.modelType),
   ("modelType", .string (Dialect.modelType d)), ("ir", d.toNode.view),
   ("spans", Json.list d.toNode.preorder fun n => Span.viewOptional n.span?)]
    ++ Json.optional "baseSpan" (d.primaryClass?.map fun c => Span.viewOptional c.1.baseTypeSpan?)
    ++ (if defects.isEmpty then [] else [("invariants", .string (IR.Defect.report defects))])

def World.view (w : World) : List (String × Json) :=
  let d := w.document
  [("fileKind", .string d.fileKind.name), ("checksum", .string d.digest.hex),
   ("files", .ofNat w.files.size)]
    ++ Json.optional "scope" (d.scope?.map fun s => .record
        [("prefix", .string s.tagStart), ("helpers", Json.list s.helpers fun h => .string h.name)])
    ++ ((d.intermediate?.map fun ir => ir.view w.files).getD [])
    ++ Json.optional "output" (d.output?.map Code.Output.view)

def Engine.view (e : Engine) : Json :=
  let f := e.features
  let names {α : Type} (r : PassRegistry α) : Json := Json.list r.ordered fun p => .string p.name
  .record
    [("phases", Json.list e.phases fun s => .string s.name),
     ("keywords", Json.list f.directives.keywords Json.string),
     ("blocks", Json.list (f.directives.filterByKind [.markupBlock, .codeBlock]) fun d =>
        .string d.keyword),
     ("target", .string e.target.name), ("version", .string e.configuration.version.name),
     ("extensions", Json.list f.targetExtensions fun x => .string x.name),
     ("syntax", names f.syntaxPasses), ("classifiers", names f.classifiers),
     ("directives", names f.directivePasses), ("optimizations", names f.optimizations)]

def PhaseEvent.view (e : PhaseEvent) : Json := .string (
  match e.status with
  | .started => "+" ++ e.name
  | .ended => "-" ++ e.name
  | .failed => "-" ++ e.name ++ " failed")

end TemplateCompiler
