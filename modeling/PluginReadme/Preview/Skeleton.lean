import PluginReadme.Preview.Slug
import PluginReadme.Readme.Document
import PluginReadme.Text.Blank

/-!
# Skeletons

The readme of a plugin that is about to be written: complete, and with a sample in every place.
-/

namespace PluginReadme.Skeleton

def defaultName : Text := "WordPress Plugin Name"

def version : Text := "1.0.0"

def headerLines (name : Text) : List Text :=
  [Heading.write 3 name,
    "Contributors: your-wordpress-username",
    "Tags: tag1, tag2",
    "Requires at least: 6.0",
    "Tested up to: 6.6",
    "Requires PHP: 7.4",
    "Stable tag: " ++ version,
    "License: GPLv2 or later",
    "License URI: https://www.gnu.org/licenses/gpl-2.0.html",
    "",
    "A short description of what the plugin does, shown in the plugin directory."]

def uploadLine (folder : Text) : Text :=
  "1. Upload the plugin files to the `/wp-content/plugins/" ++ folder ++
    "` directory, or install the plugin through the WordPress plugins screen directly."

/-- The sections with the lines of their samples. -/
def sections (folder : Text) : List (Text × List Text) :=
  [("Description",
      ["Describe what the plugin does and who it is for. Explain the main features,",
        "how the plugin fits into a WordPress site and anything users should know",
        "before installing it."]),
    ("Installation",
      [uploadLine folder, "2. Activate the plugin through the 'Plugins' screen in WordPress."]),
    ("Frequently Asked Questions",
      [Heading.write 1 "How do I use this plugin?", "", "Answer to the question."]),
    ("Screenshots", ["1. This screenshot description corresponds to screenshot-1.png."]),
    ("Changelog", [Heading.write 1 version, "- Initial release."]),
    ("Upgrade Notice", [Heading.write 1 version, "Initial release."])]

def folderOf (name : Text) : Text :=
  let folder := slug name
  if folder.isEmpty then "plugin-name" else folder

def nameOf (name : Text) : Text :=
  let stripped := Text.strip name
  if stripped.isEmpty then defaultName else stripped

def lines (name : Text) : List Text :=
  headerLines name ++ (sections (folderOf name)).flatMap fun (title, lines) ↦
    [[], Heading.write 2 title, []] ++ lines

def text (name : Text) : Text := (lines (nameOf name)).flatMap fun line ↦ line ++ ['\n']

end PluginReadme.Skeleton
