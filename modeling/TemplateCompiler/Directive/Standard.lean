import TemplateCompiler.Directive.Basic

/-!
# The directives of the language

Four directives belong to every engine: imports of namespaces and the three that decide which tag
helpers are in scope.  The others come with a dialect: those that views and components share,
those of views and pages, and those of components.
-/

namespace TemplateCompiler

namespace DirectiveDescriptor

/-! ## Every engine -/

def addTagHelper : DirectiveDescriptor :=
  builtin "addTagHelper" .singleLine "Adds tag helpers matching the lookup text."
    [⟨.string, "LookupText", false⟩]

/-- Takes tag helpers out of scope. -/
def removeTagHelper : DirectiveDescriptor :=
  builtin "removeTagHelper" .singleLine "Removes tag helpers matching the lookup text."
    [⟨.string, "LookupText", false⟩]

/-- Requires tag helper elements to start with a given text. -/
def tagHelperPrefix : DirectiveDescriptor :=
  builtin "tagHelperPrefix" .singleLine "Requires tag helper elements to carry the prefix."
    [⟨.string, "Prefix", false⟩] .fileScopedOnce

def usingNamespace : DirectiveDescriptor :=
  builtin "using" .singleLine "Imports a namespace into the generated document."
    [⟨.namespaceName, "Namespace", false⟩] .fileScopedMany

/-- The directives that every engine registers. -/
def core : List DirectiveDescriptor :=
  [usingNamespace, addTagHelper, removeTagHelper, tagHelperPrefix]

/-! ## Views and components -/

/-- Sets the base type of the generated class. -/
def inherits : DirectiveDescriptor :=
  builtin "inherits" .singleLine "Sets the base type of the generated class."
    [⟨.type, "TypeName", false⟩] .fileScopedOnce

/-- Adds members to the generated class. -/
def functions : DirectiveDescriptor :=
  builtin "functions" .codeBlock "Adds members to the generated class." []

/-- Defines a named part of the page that the layout places. -/
def sectionBlock : DirectiveDescriptor :=
  builtin "section" .markupBlock "Defines a named section rendered by the layout."
    [⟨.member, "SectionName", false⟩]

/-- Adds an interface to the generated class. -/
def implements : DirectiveDescriptor :=
  builtin "implements" .singleLine "Adds an interface to the generated class."
    [⟨.type, "TypeName", false⟩] .fileScopedMany

/-- The directives that views and components share. -/
def shared : List DirectiveDescriptor := [inherits, functions, sectionBlock, implements]

/-! ## Views and pages -/

def model : DirectiveDescriptor :=
  builtin "model" .singleLine "Sets the model type of the view."
    [⟨.type, "TypeName", false⟩] .fileScopedOnce

/-- Sets the namespace of the generated class. -/
def namespaceOf : DirectiveDescriptor :=
  builtin "namespace" .singleLine "Sets the namespace of the generated class."
    [⟨.namespaceName, "Namespace", false⟩] .fileScopedOnce

def page : DirectiveDescriptor :=
  builtin "page" .singleLine "Marks the document as a page, optionally with a route template."
    [⟨.string, "RouteTemplate", true⟩] .fileScopedOnce

def views : List DirectiveDescriptor := [model, namespaceOf, page]

/-! ## Components -/

/-- Adds members to a component. -/
def code : DirectiveDescriptor :=
  builtin "code" .codeBlock "Adds members to the component class." []

/-- Declares a type parameter of a component. -/
def typeParameter : DirectiveDescriptor :=
  builtin "typeparam" .singleLine "Declares a generic type parameter of the component."
    [⟨.member, "Name", false⟩, ⟨.genericConstraint, "Constraint", true⟩] .fileScopedMany

/-- Sets the layout of a component. -/
def layout : DirectiveDescriptor :=
  builtin "layout" .singleLine "Sets the layout the component renders in."
    [⟨.type, "TypeName", false⟩] .fileScopedOnce

/-- Adds an attribute to a component's class. -/
def attributeSection : DirectiveDescriptor :=
  builtin "attribute" .singleLine "Adds an attribute to the component class."
    [⟨.attributeSection, "Attribute", false⟩] .fileScopedMany

def components : List DirectiveDescriptor := [code, typeParameter, layout, attributeSection]

/-- Every directive of the language, those of every engine first. -/
def standard : List DirectiveDescriptor :=
  [usingNamespace, addTagHelper, removeTagHelper, tagHelperPrefix] ++ shared ++ views ++ components

end DirectiveDescriptor

end TemplateCompiler
