/-!
# Support code

Functions that every generated module contains: they wrap objects, check them, and carry errors from
one language to the other.
-/

namespace HeaderBind.Support

/-- The layout of the objects that wrap, and the counter of the wrapped classes. -/
def wrapperObject : String :=
  r#"
/* The following is a static array mapping CCLASS() pointers to their Python wrappers.
 * This is used to allow the correct wrapper to be chosen depending on the object type
 * found - regardless of the prototype.
 *
 * This is basically a safer way for us to cast the correct Python type depending on
 * context rather than assuming a type based on the .h definition. For example consider
 * the function:
 *
 * AFFObject Resolver.open(uri, mode)
 *
 * The .h file implies that an AFFObject object is returned, but this is not true as
 * most of the time an object of a derived C class will be returned. In C we cast the
 * returned value to the correct type. In the Python wrapper we just instantiate the
 * correct Python object wrapper at runtime depending on the actual returned type. We
 * use this lookup table to do so.
 */

/* std::atomic is used so a re-import (subinterpreter or importlib.reload) cannot expose
 * a half-zeroed table to a concurrent new_class_wrapper reader. Writers use release /
 * readers acquire so seeing the bumped count implies seeing the matching
 * python_wrappers[] entry.
 */
static std::atomic<int> TOTAL_CCLASSES(0);

#define CONSTRUCT_INITIALIZE(cclass, virt_cclass, constructor, object, ...) \
    (cclass)(((virt_cclass) (&__ ## cclass))->constructor(object, ## __VA_ARGS__))

#undef BUFF_SIZE
#define BUFF_SIZE 10240

/* Generic wrapper type
 */
typedef struct Gen_wrapper_t *Gen_wrapper;
struct Gen_wrapper_t {
    PyObject_HEAD

    void *base;

    /* Value to indicate the base is a Python object.
     */
    int base_is_python_object;

    /* Value to indicate the base is managed internal.
     */
    int base_is_internal;

    PyObject *python_object1;
    PyObject *python_object2;
};

"#

/-- The table of the wrapped classes, with room for a number of them. -/
def wrapperTable (size : Nat) : String :=
  r#"static struct python_wrapper_map_t {
    Object class_ref;
    PyTypeObject *python_type;
    void (*initialize_proxies)(Gen_wrapper self, void *item);
} python_wrappers["# ++ toString size ++ r#"];

"#

/-- What the collector of the wrapped language needs of an object that wraps. -/
def collectorSupport : String :=
  r#"/* Cycle-collection support shared by every Gen_wrapper-shaped type (real classes and
 * struct wrappers; not enums, which keep their own layout). python_object1/2 hold
 * strong refs to other wrappers that can reference back through Python attributes,
 * without GC support the cycle leaks for the process lifetime.
 */
static int Gen_wrapper_traverse(PyObject *self, visitproc visit, void *arg) {
    Gen_wrapper g = (Gen_wrapper) self;
    Py_VISIT(g->python_object1);
    Py_VISIT(g->python_object2);
    if(g->base_is_python_object != 0 && g->base != NULL) {
        Py_VISIT((PyObject *) g->base);
    }
    return 0;
}

static int Gen_wrapper_clear(PyObject *self) {
    Gen_wrapper g = (Gen_wrapper) self;
    Py_CLEAR(g->python_object1);
    Py_CLEAR(g->python_object2);
    if(g->base_is_python_object != 0 && g->base != NULL) {
        PyObject *tmp = (PyObject *) g->base;
        g->base = NULL;
        Py_DECREF(tmp);
    }
    return 0;
}

"#

/-- Make the wrapper that goes with the class of an object. -/
def newWrapper : String :=
  r#"/* Create the relevant wrapper from the item based on the lookup table.
 *
 * If parent is non-NULL, the wrapped child takes a strong reference to it via
 * python_object1. This keeps the parent Python wrapper (and therefore its underlying
 * libtsk handle) alive for as long as the child exists, which matters under
 * free-threaded Python where a different thread may drop the parent's last visible
 * reference while this thread is still using a child object derived from it.
 */
Gen_wrapper new_class_wrapper(Object item, int item_is_python_object, PyObject *parent) {
    Gen_wrapper result = NULL;
    Object cls = NULL;
    struct python_wrapper_map_t *python_wrapper = NULL;
    int cls_index = 0;

    // Return a Py_None object for a NULL pointer
    if(item == NULL) {
        Py_IncRef((PyObject *) Py_None);
        return (Gen_wrapper) Py_None;
    }
    // Search for subclasses
    int total = TOTAL_CCLASSES.load(std::memory_order_acquire);

    for(cls = (Object) item->__class__; cls != cls->__super__; cls = cls->__super__) {
        for(cls_index = 0; cls_index < total; cls_index++) {
            python_wrapper = &(python_wrappers[cls_index]);

            if(python_wrapper->class_ref == cls) {
                PyErr_Clear();

                /* PyObject_GC_New: the type carries Py_TPFLAGS_HAVE_GC so
                 * the object must be allocated through the GC machinery;
                 * GC_Track is deferred until python_object1/2 and base are
                 * fully wired so traverse never sees a half-built wrapper.
                 */
                result = PyObject_GC_New(struct Gen_wrapper_t, python_wrapper->python_type);
                if(result == NULL) {
                    return NULL;
                }
                result->base = item;
                result->base_is_python_object = item_is_python_object;
                result->base_is_internal = 1;
                result->python_object1 = NULL;
                result->python_object2 = NULL;

                if(parent != NULL) {
                    Py_IncRef(parent);
                    result->python_object1 = parent;
                }

                python_wrapper->initialize_proxies(result, (void *) item);

                PyObject_GC_Track((PyObject *) result);
                return result;
            }
        }
    }
    PyErr_Format(PyExc_RuntimeError, "Unable to find a wrapper for object %s", NAMEOF(item));

    return NULL;
}

"#

/-- Find the exception for the pending error of the library. -/
def exceptionOf (errorFunction : String) : String :=
  r#"typedef void (*function_initialize_Gen_wrapper_t)(Gen_wrapper, void*);

static PyObject *resolve_exception(char **error_buff) {
    int *type = (int *)"# ++ errorFunction ++ r#"(error_buff);

    switch(*type) {
        case EProgrammingError:
            return PyExc_SystemError;
        case EKeyError:
            return PyExc_KeyError;
        case ERuntimeError:
            return PyExc_RuntimeError;
        case EInvalidParameter:
            return PyExc_TypeError;
        case EWarning:
            return PyExc_AssertionError;
        case EIOError:
            return PyExc_IOError;
        default:
            return PyExc_RuntimeError;
    }
}

"#

/-- Check the class of an object, and whether an error is pending. -/
def checks : String :=
  r#"static int type_check(PyObject *obj, PyTypeObject *type) {
    PyTypeObject *tmp = NULL;

    // Recurse through the inheritance tree and check if the types are expected
    if(obj) {
        for(tmp = Py_TYPE(obj);
            tmp && tmp != &PyBaseObject_Type;
            tmp = tmp->tp_base) {
            if(tmp == type) return 1;
        }
    }
    return 0;
}

static int check_error() {
    char *buffer = NULL;
    int *error_type = (int *) aff4_get_current_error(&buffer);

    if(*error_type != EZero) {
        PyObject *exception = resolve_exception(&buffer);

        if(buffer != NULL) {
            PyErr_Format(exception, "%s", buffer);
        } else {
            PyErr_Format(exception, "Unable to retrieve exception reason.");
        }
        ClearError();
        return 1;
    }
    return 0;
}

"#

/-- Find out whether a method is overridden. -/
def overrideCheck : String :=
  r#"/* This function checks if a method was overridden in self over a
 * method defined in type. This is used to determine if a Python class is
 * extending this C type. If not, a proxy function is not written and C
 * calls are made directly.
 *
 * This is an optimization to eliminate the need for a call into Python
 * in the case where Python objects do not actually extend any methods.
 *
 * We basically just iterate over the MRO and determine if a method is
 * defined in each level until we reach the base class.
 */
static int check_method_override(PyObject *self, PyTypeObject *type, const char *method) {
    struct _typeobject *ob_type = NULL;
    PyObject *mro = NULL;
    PyObject *py_method = NULL;
    PyObject *item_object = NULL;
    PyObject *dict = NULL;
    Py_ssize_t item_index = 0;
    Py_ssize_t number_of_items = 0;
    int found = 0;

    ob_type = Py_TYPE(self);
    if(ob_type == NULL ) {
      return 0;
    }
    mro = ob_type->tp_mro;

    py_method = PyUnicode_FromString(method);
    if(py_method == NULL) {
        return 0;
    }
    number_of_items = PySequence_Size(mro);

    for(item_index = 0; item_index < number_of_items; item_index++) {
        int contains_result = 0;
        item_object = PySequence_GetItem(mro, item_index);
        if(item_object == NULL) {
            break;
        }

        // Ok - we got to the base class - finish up
        if(item_object == (PyObject *) type) {
            Py_DecRef(item_object);
            break;
        }
        /* Extract the dict and check if it contains the method (the
         * dict is not a real dictionary so we can not use
         * PyDict_Contains).
         */
        dict = PyObject_GetAttrString(item_object, "__dict__");
        if(dict != NULL) {
            contains_result = PySequence_Contains(dict, py_method);
            if(contains_result > 0) {
                found = 1;
            }
        }
        Py_DecRef(dict);
        Py_DecRef(item_object);

        if(found != 0) {
            break;
        }
    }
    Py_DecRef(py_method);
    PyErr_Clear();

    return found;
}

"#

/-- Hand an exception of the wrapped language over to the library. -/
def errorTransfer (errorFunction : String) : String :=
  r#"/* Fetches a Python exception.
 *
 * Python 3.12+ uses PyErr_GetRaisedException and PyErr_SetRaisedException. PyErr_Fetch
 * and PyErr_Restore triple were deprecated in 3.12 and removed in 3.14. Given
 * normalization races they cannot be used under free-threading.
 *
 * Pre-3.12 support has been retained for Python 3.10 and 3.11 compatibility.
 */
void pytsk_fetch_error(void) {
#if PY_VERSION_HEX < 0x030C0000
    PyObject *exception_traceback = NULL;
    PyObject *exception_type = NULL;
#endif
    PyObject *exception_value = NULL;
    PyObject *string_object = NULL;
    char *str_c = NULL;
    char *error_str = NULL;
    int *error_type = (int *) "# ++ errorFunction ++ r#"(&error_str);

    PyObject *utf8_string_object  = NULL;

    /* Fetch the exception state and convert it to a string.
     */
#if PY_VERSION_HEX >= 0x030C0000
    exception_value = PyErr_GetRaisedException();
#else
    PyErr_Fetch(&exception_type, &exception_value, &exception_traceback);
#endif

    /* NULL on the legacy path means PyErr_SetNone(type) raised without a value, e.g.
     * KeyboardInterrupt); on the modern path means no exception was actually set.
     */
    if(exception_value == NULL) {
        if(error_str != NULL) {
            const char *placeholder = "Python exception raised without value";
            size_t placeholder_len = strlen(placeholder);
            if(placeholder_len > (size_t)(BUFF_SIZE - 1)) {
                placeholder_len = (size_t)(BUFF_SIZE - 1);
            }
            memcpy(error_str, placeholder, placeholder_len);
            error_str[placeholder_len] = 0;
        }
        *error_type = ERuntimeError;
#if PY_VERSION_HEX >= 0x030C0000
        PyErr_SetRaisedException(exception_value);
#else
        PyErr_Restore(exception_type, exception_value, exception_traceback);
#endif
        return;
    }
    string_object = PyObject_Repr(exception_value);

    if(string_object != NULL) {
        utf8_string_object = PyUnicode_AsUTF8String(string_object);
    }
    if(utf8_string_object != NULL) {
        str_c = PyBytes_AsString(utf8_string_object);
    }
    if(str_c != NULL) {
        strncpy(error_str, str_c, BUFF_SIZE-1);
        error_str[BUFF_SIZE - 1] = 0;
        *error_type = ERuntimeError;
    } else {
        /* Repr/encode failed; record a generic message so callers
         * still observe ERuntimeError instead of EZero (which would
         * make check_error() report success).
         */
        if(error_str != NULL) {
            const char *placeholder = "Python exception (repr failed)";
            size_t placeholder_len = strlen(placeholder);

            if(placeholder_len > (size_t)(BUFF_SIZE - 1)) {
                placeholder_len = (size_t)(BUFF_SIZE - 1);
            }
            memcpy(error_str, placeholder, placeholder_len);
            error_str[placeholder_len] = 0;
        }
        *error_type = ERuntimeError;
    }
#if PY_VERSION_HEX >= 0x030C0000
    PyErr_SetRaisedException(exception_value);
#else
    PyErr_Restore(exception_type, exception_value, exception_traceback);
#endif

    if( utf8_string_object != NULL ) {
        Py_DecRef(utf8_string_object);
    }
    if(string_object != NULL) {
        Py_DecRef(string_object);
    }
    return;
}

"#

/-- Read a wide integer. -/
def wideInteger : String :=
  r#"/* Copies a Python int or long object to an unsigned 64-bit value
 */
uint64_t integer_object_copy_to_uint64(PyObject *integer_object) {
#if defined( HAVE_LONG_LONG )
    PY_LONG_LONG long_value = 0;
#else
    long long_value = 0;
#endif
    int result = 0;

    if(integer_object == NULL) {
        PyErr_Format(PyExc_ValueError, "Missing integer object");

        return (uint64_t) -1;
    }
    PyErr_Clear();

    result = PyObject_IsInstance(integer_object, (PyObject *) &PyLong_Type);

    if(result == -1) {
        pytsk_fetch_error();

        return (uint64_t) -1;

    } else if(result != 0) {
        PyErr_Clear();

#if defined( HAVE_LONG_LONG )
    long_value = PyLong_AsUnsignedLongLong(integer_object);
#else
    long_value = PyLong_AsUnsignedLong(integer_object);
#endif
        /* PyLong_AsUnsignedLong / PyLong_AsUnsignedLongLong returns
         * (unsigned)-1 and sets OverflowError when the value does
         * not fit. Surfacing the original exception is more useful
         * than continuing into the generic "out of bounds" path
         * below, which would clobber the OverflowError with a fresh
         * ValueError.
         */
        if(PyErr_Occurred()) {
            pytsk_fetch_error();

            return (uint64_t) -1;
        }
    }
    if(result == 0) {
        if(PyErr_Occurred()) {
            pytsk_fetch_error();

            return (uint64_t) -1;
        }
    }
#if defined( HAVE_LONG_LONG )
#if ( SIZEOF_LONG_LONG > 8 )
    if((long_value < (PY_LONG_LONG) 0) || (long_value > (PY_LONG_LONG) UINT64_MAX)) {
#else
    if(long_value < (PY_LONG_LONG) 0) {
#endif
        PyErr_Format(PyExc_ValueError, "Integer object value out of bounds");

        return (uint64_t) -1;
    }
#else
#if ( SIZEOF_LONG > 8 )
    if((long_value < (long) 0) || (long_value > (long) UINT64_MAX)) {
#else
    if(long_value < (PY_LONG_LONG) 0) {
#endif
        PyErr_Format(PyExc_ValueError, "Integer object value out of bounds");

        return (uint64_t) -1;
    }
#endif
    return (uint64_t) long_value;
}

"#

/-- All support code, with room for a number of classes. -/
def code (size : Nat) (errorFunction : String) : String :=
  wrapperObject ++ wrapperTable size ++ collectorSupport ++ newWrapper
  ++ exceptionOf errorFunction ++ checks ++ overrideCheck ++ errorTransfer errorFunction
  ++ wideInteger

end HeaderBind.Support
