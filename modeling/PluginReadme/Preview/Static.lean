import PluginReadme.Text.Basic

/-!
# Static parts of a page

The style sheet of every page, and the script that switches between tabs.
-/

namespace PluginReadme.Page

structure StyleRule where
  selector : String
  settings : String

def StyleRule.text (rule : StyleRule) : Text :=
  rule.selector.toList ++ " \x7b " ++ rule.settings.toList ++ " \x7d"

def styleRules : List StyleRule :=
  [⟨"body",
      "font-family: -apple-system, BlinkMacSystemFont, \"Segoe UI\", Roboto, sans-serif; " ++
        "line-height: 1.6; margin: 0; padding: 20px;"⟩,
    ⟨".readme-preview", "max-width: 900px; margin: 0 auto;"⟩,
    ⟨".validation-summary", "border-radius: 4px; padding: 12px 16px; margin-bottom: 20px;"⟩,
    ⟨".validation-summary.success", "background: #edfaef; border-left: 4px solid #00a32a;"⟩,
    ⟨".validation-summary.warning", "background: #fcf9e8; border-left: 4px solid #dba617;"⟩,
    ⟨".validation-summary.error", "background: #fcf0f1; border-left: 4px solid #d63638;"⟩,
    ⟨".validation-status .score", "float: right; font-weight: bold;"⟩,
    ⟨".validation-item.error", "color: #d63638;"⟩,
    ⟨".validation-suggestion", "font-family: monospace; margin-left: 1em;"⟩,
    ⟨".plugin-name", "margin-bottom: 0.5em;"⟩,
    ⟨".meta-row", "display: flex; flex-wrap: wrap; gap: 1.5em;"⟩,
    ⟨".meta-item label", "font-weight: 600;"⟩,
    ⟨".tag", "background: #f0f0f1; border-radius: 3px; padding: 0 6px;"⟩,
    ⟨".missing", "color: #8c8f94; font-style: italic;"⟩,
    ⟨".short-description", "font-size: 1.1em; margin: 1em 0;"⟩,
    ⟨".readme-section", "border-top: 1px solid #dcdcde; padding-top: 1em;"⟩,
    ⟨".readme-tabs button",
      "background: none; border: none; border-bottom: 2px solid transparent; " ++
        "padding: 8px 12px;"⟩,
    ⟨".readme-tabs button[aria-selected=\"true\"]", "border-bottom-color: #2271b1;"⟩,
    ⟨"pre", "background: #f6f7f7; padding: 12px; overflow-x: auto;"⟩,
    ⟨".video-embed iframe", "max-width: 100%;"⟩]

def styleSheet : Text := Text.join "\n" (styleRules.map StyleRule.text)

/-- Shows the panel of the tab that was chosen last. -/
def tabScript : Text :=
  Text.join "\n" (([
    "(function () \x7b",
    "  'use strict';",
    "",
    "  var tabs = document.querySelectorAll('.readme-tabs [role=\"tab\"]');",
    "",
    "  function select(tab) \x7b",
    "    tabs.forEach(function (other) \x7b",
    "      var selected = other === tab;",
    "      other.setAttribute('aria-selected', selected ? 'true' : 'false');",
    "      var panel = document.getElementById(other.getAttribute('aria-controls'));",
    "      if (panel) \x7b",
    "        panel.hidden = !selected;",
    "      \x7d",
    "    \x7d);",
    "  \x7d",
    "",
    "  tabs.forEach(function (tab) \x7b",
    "    tab.addEventListener('click', function () \x7b",
    "      select(tab);",
    "    \x7d);",
    "  \x7d);",
    "\x7d)();"] : List String).map String.toList)

end PluginReadme.Page
