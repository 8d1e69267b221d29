import AnneDeBreuil.Diagrams
import AnneDeBreuil.Precedence
import Mathlib.Data.List.Dedup
import Mathlib.Data.String.Basic

namespace AnneDeBreuil

namespace RuleEvaluation

def canvasWidth : Int := 600
def layerHeight : Int := 60
def layerGap : Int := 12
def topMargin : Int := 20
def leftMargin : Int := 20

structure Layer where
  heading : String
  className : String
  entries : List String

/-- The set of the names of the rules matched for these verdicts. -/
def ruleNames (host : HostSection) (verdicts : List Reachability) : List String :=
  sortByKey id (host.endpoints.flatMap fun endpoint =>
    if endpoint.reachability ∈ verdicts then endpoint.matchedRules.map FirewallRuleView.displayName else []).dedup

def blockRules (host : HostSection) : List String := ruleNames host [.blocked]

def allowRules (host : HostSection) : List String := ruleNames host [.allowed, .indeterminate]

def defaultActionCount (host : HostSection) : Nat :=
  host.endpoints.countP (fun endpoint => endpoint.reachability = .defaultAction)

def layers (host : HostSection) : List Layer :=
  [⟨"1. Block", "svg-fill-blocked", blockRules host⟩, ⟨"2. Allow", "svg-fill-allowed", allowRules host⟩,
    ⟨"3. Default action", "svg-fill-default-action",
      [toString (defaultActionCount host) ++ " endpoint(s) with no matching rule"]⟩]

def summary (entries : List String) : String :=
  if entries.isEmpty then "no rules" else ", ".intercalate entries

def layerCalls : Int → List Layer → List SvgCall
  | _, [] => []
  | y, layer :: layers =>
    [.rect leftMargin y (canvasWidth - leftMargin * 2) layerHeight layer.className,
      .text (leftMargin + 8) (y + 20) layer.heading "svg-text",
      .text (leftMargin + 8) (y + 40) (summary layer.entries) "svg-text-mono"] ++
    layerCalls (y + (layerHeight + layerGap)) layers

def render (host : HostSection) : Diagram where
  width := canvasWidth
  height := topMargin * 2 + (layers host).length * (layerHeight + layerGap)
  calls := layerCalls topMargin (layers host)
  title := "Rule evaluation precedence for host " ++ host.shortHostId
  desc := "Block rules are evaluated before allow rules; anything left ungoverned falls to " ++
    "the profile's default action."

/-- The rule is one of those that let the endpoint be reached. -/
structure Admits (target : Target) (rules : List FirewallRule) (rule : FirewallRule) (endpoint : Endpoint) : Prop where
  mem : rule ∈ rules
  governs : Governs target rule endpoint
  unblocked : ∀ other ∈ rules, Governs target other endpoint → other.action = .allow

section

variable {target : Target} {regexNew : String → Option FindIter} {snapshot : ScanSnapshot}

end

end RuleEvaluation

end AnneDeBreuil
