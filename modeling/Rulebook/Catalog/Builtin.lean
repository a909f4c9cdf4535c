import Rulebook.Catalog.Basic

namespace Rulebook.Catalog

def builtinRules : List Rule :=
  [ { Rule.new "no-new-dependencies" .error with
      title := "No new dependencies"
      description := "Work with the packages the project already has."
      appliesTo := .ofList [.generate, .refactor]
      directive := "Do not add new third-party dependencies; use what is already installed."
      contributes := .ofMembers [("allowNewDependencies", .boolean false)] },
    { Rule.new "keep-changes-readable" .warn with
      title := "Keep changes readable"
      description := "Small, reviewable diffs."
      appliesTo := .ofList [.generate, .refactor, .review]
      directive := "Keep changes small and readable; prefer clear names over clever code." },
    { Rule.new "follow-existing-patterns" .warn with
      title := "Follow existing patterns"
      appliesTo := .ofList [.generate, .refactor]
      directive := "Match the structure, naming and idioms already used in the surrounding code." },
    { Rule.new "add-tests-for-new-code" .warn with
      title := "Add tests for new code"
      appliesTo := .ofList [.generate]
      directive := "Add or update tests covering every new code path."
      contributes := .ofMembers [("requireTests", .boolean true)] },
    { Rule.new "allow-experimental-packages" .warn with
      title := "Allow experimental packages"
      description := "Opt-in escape hatch for prototypes."
      appliesTo := .ofList [.generate]
      directive := "Experimental packages may be introduced when they clearly simplify the task."
      conflictsWith := ["no-new-dependencies"]
      contributes := .ofMembers [("allowNewDependencies", .boolean true)] },
    { Rule.new "preserve-public-api" .error with
      title := "Preserve public API"
      appliesTo := .ofList [.refactor]
      directive := "Do not change exported signatures, routes or message formats." },
    { Rule.new "minimal-diff" .info with
      title := "Minimal diff"
      appliesTo := .ofList [.refactor]
      directive := "Touch only the lines needed for the refactoring."
      conflictsWith := ["rewrite-for-clarity"] },
    { Rule.new "rewrite-for-clarity" .info with
      title := "Rewrite for clarity"
      appliesTo := .ofList [.refactor]
      directive := "Restructure freely when it makes the module easier to follow." },
    { Rule.new "report-findings-by-severity" .info with
      title := "Report findings by severity"
      appliesTo := .ofList [.review]
      directive := "Group review findings as blocking, important and minor." },
    { Rule.new "no-unrequested-changes" .warn with
      title := "No unrequested changes"
      appliesTo := .ofList [.generate, .refactor, .review]
      directive := "Do not modify files or behavior the request did not ask for." },
    { Rule.new "use-client-components" .info with
      title := "Use client components"
      appliesTo := .ofList [.generate]
      directive := "Mark new components as client components."
      contributes := .ofMembers [("preferServerComponents", .boolean false)] },
    { Rule.new "strict-types" .error with
      title := "Strict types"
      appliesTo := .ofList [.generate, .refactor]
      directive := "Keep the type checker in strict mode; no implicit any or unchecked casts."
      contributes := .ofMembers [("strictTypes", .boolean true)] } ]

def builtinRulesets : List Ruleset :=
  [ { Ruleset.new "starter" with
      name := "Starter"
      description := "Minimal guardrails."
      ruleIds :=
        ["no-new-dependencies"]
      optionalRuleIds :=
        ["keep-changes-readable"] },
    { Ruleset.new "standard" with
      name := "Standard"
      description := "Day-to-day guardrails for product work."
      ruleIds :=
        ["no-new-dependencies",
         "follow-existing-patterns",
         "no-unrequested-changes"]
      optionalRuleIds :=
        ["keep-changes-readable",
         "add-tests-for-new-code",
         "allow-experimental-packages",
         "use-client-components"] },
    { Ruleset.new "careful-refactor" with
      name := "Careful refactor"
      description := "Refactoring without behavior changes."
      ruleIds :=
        ["preserve-public-api",
         "minimal-diff",
         "no-unrequested-changes"]
      optionalRuleIds :=
        ["rewrite-for-clarity",
         "strict-types"] },
    { Ruleset.new "code-review" with
      name := "Code review"
      ruleIds :=
        ["report-findings-by-severity",
         "keep-changes-readable"] } ]

def builtinPresets : List StackPreset :=
  [ { StackPreset.new "nextjs-app-router" "standard" with
      name := "Next.js (App Router)"
      description := "React server components on the Next.js app router."
      constraints :=
        .ofMembers [("preferServerComponents", .boolean true), ("styling", .text "tailwind")] },
    { StackPreset.new "rust-service" "careful-refactor" with
      name := "Rust service"
      constraints := .ofMembers [("edition", .text "2021"), ("unsafeCode", .boolean false)] },
    { StackPreset.new "python-fastapi" "standard" with
      name := "Python FastAPI"
      constraints :=
        .ofMembers [("pythonVersion", .text "3.12"), ("asyncHandlers", .boolean true)] } ]

def builtinCommands : List Command :=
  [ (Command.new "create-component" .generate).withName "Create component",
    (Command.new "implement-feature" .generate).withName "Implement feature",
    (Command.new "refactor-module" .refactor).withName "Refactor module",
    (Command.new "review-changes" .review).withName "Review changes" ]

def builtinDocument : CatalogDocument where
  rules := builtinRules
  rulesets := builtinRulesets
  stackPresets := builtinPresets
  commands := builtinCommands

def builtin : Result Catalog :=
  (Result.ofExcept .catalog (ofDocument builtinDocument)).inContext "validating built-in catalog"

end Rulebook.Catalog
