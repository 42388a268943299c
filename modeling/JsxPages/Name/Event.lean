import JsxPages.Name.Case
/-!
# Property names of event handlers

An attribute `on` followed by letters holds an event handler. Its property is `on` with the name of
the event, each word of which begins with a capital as far as the words are known.
-/

namespace JsxPages.Name

/-- Handlers whose property has more than one capital or another name. -/
def handlerProperties : List (String × String) :=
  [("onabort", "onAbort"), ("onanimationend", "onAnimationEnd"),
    ("onanimationiteration", "onAnimationIteration"), ("onanimationstart", "onAnimationStart"),
    ("onbeforeinput", "onBeforeInput"), ("onblur", "onBlur"), ("oncanplay", "onCanPlay"),
    ("oncanplaythrough", "onCanPlayThrough"), ("onchange", "onChange"), ("onclick", "onClick"),
    ("oncontextmenu", "onContextMenu"), ("oncopy", "onCopy"), ("oncut", "onCut"),
    ("ondblclick", "onDoubleClick"), ("ondrag", "onDrag"), ("ondragend", "onDragEnd"),
    ("ondragenter", "onDragEnter"), ("ondragleave", "onDragLeave"), ("ondragover", "onDragOver"),
    ("ondragstart", "onDragStart"), ("ondrop", "onDrop"),
    ("ondurationchange", "onDurationChange"), ("onended", "onEnded"), ("onerror", "onError"),
    ("onfocus", "onFocus"), ("onfocusin", "onFocus"), ("onfocusout", "onBlur"),
    ("oninput", "onInput"), ("oninvalid", "onInvalid"), ("onkeydown", "onKeyDown"),
    ("onkeypress", "onKeyPress"), ("onkeyup", "onKeyUp"), ("onload", "onLoad"),
    ("onloadeddata", "onLoadedData"), ("onloadedmetadata", "onLoadedMetadata"),
    ("onloadstart", "onLoadStart"), ("onmousedown", "onMouseDown"),
    ("onmouseenter", "onMouseEnter"), ("onmouseleave", "onMouseLeave"),
    ("onmousemove", "onMouseMove"), ("onmouseout", "onMouseOut"), ("onmouseover", "onMouseOver"),
    ("onmouseup", "onMouseUp"), ("onpaste", "onPaste"), ("onpause", "onPause"),
    ("onplay", "onPlay"), ("onplaying", "onPlaying"), ("onpointercancel", "onPointerCancel"),
    ("onpointerdown", "onPointerDown"), ("onpointerenter", "onPointerEnter"),
    ("onpointerleave", "onPointerLeave"), ("onpointermove", "onPointerMove"),
    ("onpointerout", "onPointerOut"), ("onpointerover", "onPointerOver"),
    ("onpointerup", "onPointerUp"), ("onprogress", "onProgress"), ("onreset", "onReset"),
    ("onresize", "onResize"), ("onscroll", "onScroll"), ("onseeked", "onSeeked"),
    ("onseeking", "onSeeking"), ("onselect", "onSelect"), ("onsubmit", "onSubmit"),
    ("ontimeupdate", "onTimeUpdate"), ("ontoggle", "onToggle"),
    ("ontouchcancel", "onTouchCancel"), ("ontouchend", "onTouchEnd"),
    ("ontouchmove", "onTouchMove"), ("ontouchstart", "onTouchStart"),
    ("ontransitionend", "onTransitionEnd"), ("onvolumechange", "onVolumeChange"),
    ("onwaiting", "onWaiting"), ("onwheel", "onWheel")]

/-- Whether a name is that of an event handler. -/
def isEvent (name : String) : Bool :=
  match name.toList with
  | o :: n :: rest => o.toLower == 'o' && n.toLower == 'n' && !rest.isEmpty && rest.all Char.isAlpha
  | _ => false

/-- The property of an event handler. A name that does not begin with `on` stays as it is. -/
def eventProperty (name : String) : String :=
  match handlerProperties.lookup (Text.lower name) with
  | some own => own
  | none =>
    match (Text.lower name).toList with
    | 'o' :: 'n' :: rest => "on" ++ Text.capitalize (String.ofList rest)
    | _ => name

end JsxPages.Name
