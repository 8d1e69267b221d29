import AnneDeBreuil.Portal
import AnneDeBreuil.ReportWriterRuns

namespace AnneDeBreuil

inductive HtmlRenderError
  | template (message : String)
  | io (error : IoError)
deriving DecidableEq, Repr

structure HostNavEntry where
  shortId : String
  fidelityLabel : String
  fidelityClass : String
  endpointCount : Nat
  target : String
deriving DecidableEq, Repr

/-- The templates that are rendered from more than text: the stylesheet, the section of a host
by its index, and the summary, which has its navigation from the caller and the rest from the model. -/
structure HtmlTemplates where
  tokensCss : FontsMode → Except String Utf8
  hostSection : HostSection → Nat → Except String Utf8
  summary : ReportModel → List HostNavEntry → Except String Utf8

def fidelityLabel : Fidelity → String
  | .authoritative => "authoritative"
  | .inferred => "inferred"

def fidelityCssClass : Fidelity → String
  | .authoritative => "fidelity-authoritative"
  | .inferred => "fidelity-inferred"

def shortId (full : String) : String := String.ofList (full.toList.take 8)

/-- Also the anchor that the section's own template is given. -/
def anchorFor (host : HostSection) : String := "host-" ++ uuidText host.hostId.uuid

def splitFileName (host : HostSection) : String := "host-" ++ uuidText host.hostId.uuid ++ ".html"

def buildNavEntries (hosts : List HostSection) (targetFor : HostSection → String) : List HostNavEntry :=
  hosts.map fun host =>
    { shortId := shortId (uuidText host.hostId.uuid)
      fidelityLabel := fidelityLabel host.fidelity
      fidelityClass := fidelityCssClass host.fidelity
      endpointCount := host.endpoints.length
      target := targetFor host }

/-- What the three document templates begin with. -/
def documentHead (title : String) (tokensCss : Utf8) : Utf8 :=
  utf8 "<!doctype html>\n<html lang=\"en\">\n<head>\n<meta charset=\"utf-8\">\n" ++
    utf8 "<meta http-equiv=\"Content-Security-Policy\" content=\"default-src 'none'; style-src 'unsafe-inline'; img-src data:;\">\n" ++
    utf8 "<meta name=\"viewport\" content=\"width=device-width, initial-scale=1\">\n<title>" ++ utf8 title ++
    utf8 "</title>\n<style>\n" ++ tokensCss ++ utf8 "\n</style>\n</head>\n<body>\n" ++
    utf8 "<div class=\"reading-progress\" aria-hidden=\"true\"></div>\n<header class=\"hairline\">\n" ++
    utf8 "  <h1>Anne de Breuil report</h1>\n"

def documentFooter : Utf8 :=
  utf8 "<footer class=\"hairline\"><p>Generated by <a href=\"https://github.com/greysquirr3l/anne_de_breuil\">" ++
    utf8 "Anne de Breuil</a></p></footer>\n</body>\n</html>"

/-- `report.html`, up to the sections. -/
def reportHead (tokensCss summaryHtml : Utf8) : Utf8 :=
  documentHead "Anne de Breuil report" tokensCss ++ utf8 "</header>\n" ++ summaryHtml ++ utf8 "\n<main class=\"hosts\">"

def reportTail : Utf8 := utf8 "</main>\n" ++ documentFooter ++ utf8 "\n"

/-- `host_document.html`. -/
def hostDocument (tokensCss hostSectionHtml : Utf8) : Utf8 :=
  documentHead "Anne de Breuil report" tokensCss ++
    utf8 "  <p><a href=\"index.html\">&larr; back to fleet index</a></p>\n</header>\n<main class=\"hosts\">\n" ++
    hostSectionHtml ++ (utf8 "\n</main>\n" ++ documentFooter)

/-- `split_index.html`. -/
def splitIndex (tokensCss summaryHtml : Utf8) : Utf8 :=
  documentHead "Anne de Breuil report index" tokensCss ++ utf8 "</header>\n" ++ summaryHtml ++ utf8 "\n" ++ documentFooter

section

variable (templates : HtmlTemplates)

/-- The sections of the hosts, from this index on. -/
def renderSections : Nat → List HostSection → Except String (List Utf8)
  | _, [] => .ok []
  | index, host :: hosts => do
    let hostSectionHtml ← templates.hostSection host index
    let others ← renderSections (index + 1) hosts
    return hostSectionHtml :: others

/-- `write_report_streaming` to a buffer, whose writes do not fail. -/
def writeReportStreaming (model : ReportModel) (fontsMode : FontsMode) : Except HtmlRenderError Utf8 := do
  let tokensCss ← (templates.tokensCss fontsMode).mapError .template
  let summaryHtml ← (templates.summary model (buildNavEntries model.hosts fun host => "#" ++ anchorFor host)).mapError .template
  let sections ← (renderSections templates 0 model.hosts).mapError .template
  return reportHead tokensCss summaryHtml ++ sections.flatten ++ reportTail

/-- A write of the split report: the name its temporary file is given, and what the operating system answers. -/
abbrev SplitWrite := Uuid × List WriteAnswer

def writeSections (tokensCss : Utf8) (dir : FilePath) (writes : Nat → SplitWrite) :
    Nat → List HostSection → FileSystem → Option (Except HtmlRenderError Unit × FileSystem)
  | _, [], disk => some (.ok (), disk)
  | index, host :: hosts, disk =>
    match templates.hostSection host index with
    | .error message => some (.error (.template message), disk)
    | .ok hostSectionHtml =>
      match writeAtomically (writes index).1 (writes index).2 (dir.join (splitFileName host))
        (hostDocument tokensCss hostSectionHtml) disk with
      | none => none
      | some (.error e, disk) => some (.error (.io e), disk)
      | some (.ok (), disk) => writeSections tokensCss dir writes (index + 1) hosts disk

/-- `write_report_split`; the write of the index comes behind those of the hosts, and there is no outcome
where the answers are not those to the calls that are made. -/
def writeReportSplit (model : ReportModel) (fontsMode : FontsMode) (dir : FilePath) (created : Option IoError)
    (writes : Nat → SplitWrite) (disk : FileSystem) : Option (Except HtmlRenderError Unit × FileSystem) :=
  match created with
  | some e => some (.error (.io e), disk)
  | none =>
    match templates.tokensCss fontsMode with
    | .error message => some (.error (.template message), disk)
    | .ok tokensCss =>
      match writeSections templates tokensCss dir writes 0 model.hosts disk with
      | none => none
      | some (.error e, disk) => some (.error e, disk)
      | some (.ok (), disk) =>
        match templates.summary model (buildNavEntries model.hosts splitFileName) with
        | .error message => some (.error (.template message), disk)
        | .ok summaryHtml =>
          (writeAtomically (writes model.hosts.length).1 (writes model.hosts.length).2 (dir.join "index.html")
            (splitIndex tokensCss summaryHtml) disk).map fun written => (written.1.mapError .io, written.2)

end

end AnneDeBreuil
